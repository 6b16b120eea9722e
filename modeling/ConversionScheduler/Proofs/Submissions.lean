import ConversionScheduler.Proofs.Polling
/-!
# Submitting a task

A task is written, a worker is selected and asked to take it, and the task is written once more with
its assignment. If it comes to nothing, the record is removed again, provided that the scheduler is
to do so. Whether the task has a worker already is looked at last, when the answer of the worker is
there: a task that was assigned before is offered once more, to whichever worker is selected now,
and then the submission fails like any other one.

## Main definitions

* `Http.Request.taken?`, `Http.Request.IsTaken` — whether a worker took a task, and under which id.
* `Scheduler.Offers` — a task has been written and is being offered to a worker.
* `Scheduler.Undoes` — what is left of a submission that came to nothing.
* `Scheduler.Submits`, `Scheduler.Settles` — how a submission goes on, and how it ends.

## Main results

* `Manager.selectWorker_finished` — a worker is selected without waiting.
* `Scheduler.execute_cases` — finding a worker for a task.
* `Scheduler.submits_schedule` — submitting a task, over stores that keep the tasks.
* `schedule_of_assigned` — submitting a task that is assigned already.
-/

namespace ConversionScheduler

open Manager (State)
open Manager.State (query call note count)

/-- The id under which a worker takes a task, in an answer to a request. -/
def Http.Request.taken? (r : Http.Request) (o : Http.Outcome) : Except CallFault String :=
  Proxy.decoded Proxy.acknowledgement? (Proxy.answer r.url o)

/-- Whether a worker takes a task in an answer to a request, under an id that is not empty. -/
def Http.Request.IsTaken (r : Http.Request) (o : Http.Outcome) : Prop :=
  ∃ remoteId, remoteId ≠ "" ∧ r.taken? o = .ok remoteId

/-- What the answer to a dispatch brings.

**Proof sketch.** The answer is no acknowledgement, or it has an empty id, or the task has an
assignment already; otherwise the task is assigned with the id in it. -/
lemma Proxy.settle_dispatch (p : Proxy) (t : Task) (r : Http.Request) (o : Http.Outcome)
    (q : Proxy) :
    ((∃ e, ((p.dispatch t).settle r o q).1 = .error e) ∧
        ¬ (t.assignment = none ∧ r.IsTaken o)) ∨
      ∃ a : Assignment, a.remoteId ≠ "" ∧ t.assignment = none ∧ r.taken? o = .ok a.remoteId ∧
        ((p.dispatch t).settle r o q).1 = .ok { t with assignment := some a } := by
  unfold Call.settle Http.Request.IsTaken Http.Request.taken?
  simp only [dispatch, Task.assign]
  cases hdecoded : decoded acknowledgement? (answer r.url o) with
  | error fault => exact .inl ⟨⟨_, rfl⟩, by simp⟩
  | ok remoteId =>
    by_cases hempty : remoteId = ""
    · simp only [if_pos hempty]
      refine .inl ⟨⟨_, rfl⟩, ?_⟩
      rintro ⟨-, remoteId', hne, htaken⟩
      obtain rfl := Except.ok.inj htaken
      exact hne hempty
    · simp only [if_neg hempty]
      cases hassigned : t.assignment with
      | none => exact .inr ⟨⟨p.id, remoteId⟩, hempty, rfl, rfl, rfl⟩
      | some a => exact .inl ⟨⟨_, rfl⟩, by simp⟩

/-! ## Finding a worker -/

namespace Manager

variable {ω : Type}

/-- A choice among some ids does not wait. -/
lemma selectFrom_finished (m : Manager ω) (rounds : Nat) (ids : List String) (s : State ω) :
    ∃ choice u, m.selectFrom rounds ids s = .finished choice u := by
  induction rounds generalizing ids s with
  | zero => exact ⟨_, s, rfl⟩
  | succ rounds ih =>
    rw [selectFrom, Operation.bind_apply]
    rcases hselect : s.balancer.select ids with ⟨choice, balancer⟩
    simp only [Operation.step, hselect, Act.andThen]
    cases choice with
    | none => exact ⟨_, _, rfl⟩
    | some id =>
      show ∃ choice u, (m.find? id >>= _) _ = .finished choice u
      rw [Operation.bind_apply]
      obtain ⟨r, w, -, hfind⟩ | ⟨e, w, -, hfind | ⟨e', hfind⟩⟩ :=
        find?_cases m id { s with balancer := balancer }
      · rw [hfind]
        exact ⟨_, _, rfl⟩
      · rw [hfind]
        exact ih _ _
      · rw [hfind]
        exact ⟨_, _, rfl⟩

/-- A worker is selected without waiting. -/
theorem selectWorker_finished (m : Manager ω) (s : State ω) :
    ∃ choice u, m.selectWorker s = .finished choice u := by
  show ∃ choice u, (query m.workers.ids >>= _) s = _
  rcases hids : m.workers.ids s.world with ⟨e | ids, w⟩
  · exact ⟨_, _, State.query_bind_error hids _⟩
  · rw [State.query_bind_ok hids]
    exact selectFrom_finished m _ _ _

end Manager

namespace Scheduler

variable {ω : Type} {c : Scheduler ω} {v : TaskView ω} {s : State ω} {t : Task}

/-- Whether a selected worker is one to which the task can be sent. -/
def Finds (c : Scheduler ω) (t : Task) (s : State ω) (request : Http.Request) (u : State ω) :
    Prop :=
  ∃ n, c.manager.selectWorker s = .finished (.ok (some n)) u ∧
    ((u.pool.proxy n).dispatch t).request = .ok request

/-- **Finding a worker for a task** fails at once, since there is none to which the task can be
sent, or waits for the outcome of one request to the worker that was selected.

**Proof sketch.** The selection is over at once. If it comes to a worker whose request can be
written, the request is sent, and what follows is what `Proxy.settle_dispatch` makes of its outcome;
otherwise no request can be found for the task, and the execution fails. -/
theorem execute_cases (c : Scheduler ω) (t : Task) (s : State ω) :
    (∃ e s', c.execute t s = .finished (.error e) s' ∧ ∀ request u, ¬ c.Finds t s request u) ∨
      ∃ request u resume, c.Finds t s request u ∧ c.execute t s = .waiting request u resume ∧
        ∀ o u', ∃ s', s'.world = u'.world ∧
          ((∃ e, resume o u' = .finished (.error (.reported e)) s') ∧
              ¬ (t.assignment = none ∧ request.IsTaken o) ∨
            ∃ a : Assignment, a.remoteId ≠ "" ∧ t.assignment = none ∧
              request.taken? o = .ok a.remoteId ∧
              resume o u' = .finished (.ok { t with assignment := some a }) s') := by
  obtain ⟨choice, u, hselect⟩ := Manager.selectWorker_finished c.manager s
  have hnone : choice.toOption.join = none → ∀ request u', ¬ c.Finds t s request u' := by
    rintro hchoice request u' ⟨n, hn, -⟩
    obtain ⟨rfl, rfl⟩ := Act.finished.inj (hselect.symm.trans hn)
    exact absurd hchoice (by simp [Except.toOption])
  rw [execute, Operation.bind_apply, hselect]
  rcases choice with e | _ | n
  · exact .inl ⟨e, u, rfl, hnone rfl⟩
  · exact .inl ⟨_, u, rfl, hnone rfl⟩
  show (∃ e s', ((call n fun p => p.dispatch t) >>= _) u = _ ∧ _) ∨
    ∃ request u' resume, _ ∧ ((call n fun p => p.dispatch t) >>= _) u = _ ∧ _
  rw [Operation.bind_apply]
  cases hrequest : ((u.pool.proxy n).dispatch t).request with
  | error fault =>
    rw [Manager.State.call_of_fault hrequest]
    refine .inl ⟨_, _, rfl, ?_⟩
    rintro request u' ⟨n', hn', hrequest'⟩
    obtain ⟨hchoice, rfl⟩ := Act.finished.inj (hselect.symm.trans hn')
    obtain rfl := Option.some.inj (Except.ok.inj hchoice)
    exact absurd (hrequest.symm.trans hrequest') (by simp)
  | ok request =>
    rw [Manager.State.call_of_request hrequest]
    refine .inr ⟨request, u, _, ⟨n, hselect, hrequest⟩, rfl, fun o u' => ?_⟩
    obtain ⟨⟨e, he⟩, huntaken⟩ | ⟨a, hne, hunassigned, htaken, hsettle⟩ :=
      Proxy.settle_dispatch (u.pool.proxy n) t request o (u'.pool.proxy n)
    · simp only [he]
      exact ⟨_, by rfl, .inl ⟨⟨e, rfl⟩, huntaken⟩⟩
    · simp only [hsettle]
      exact ⟨_, by rfl, .inr ⟨a, hne, hunassigned, htaken, rfl⟩⟩

/-! ## Submitting a task -/

/-- A task has been written, in the world of `s`, and is being offered to a worker. -/
structure Offers (c : Scheduler ω) (v : TaskView ω) (t : Task) (s : State ω)
    (request : Http.Request) (u : State ω) : Prop where
  written : ∃ m, v.contents? s.world = some m ∧ v.contents? u.world =
    some (Function.update m t.id (some (v.entry (t.toRecord (c.stores.now s.world)))))
  found : c.Finds t { s with world := (c.stores.tasks.add t s.world).2 } request u
  sound : v.IsSound u.world

/-- What is left of a submission that came to nothing in the world `w`: the record of the task
stays, unless it is to be removed and can be removed. -/
inductive Undoes (c : Scheduler ω) (v : TaskView ω) (id : String) (w : ω) : ω → Prop
  | kept {w' : ω} (refused : c.rollback = true → ∃ e, (c.stores.tasks.remove id w).1 = .error e)
    (same : v.contents? w' = v.contents? w) : Undoes c v id w w'
  | removed {m : TaskContents} {w' : ω} (asked : c.rollback = true)
    (before : v.contents? w = some m)
    (removed : v.contents? w' = some (Function.update m id none)) :
    Undoes c v id w w'

/-- How a submission ends once the outcome of the request is there, in the world `w`. -/
inductive Settles (c : Scheduler ω) (v : TaskView ω) (t : Task) (request : Http.Request)
    (o : Http.Outcome) (w : ω) : Except Failure Task → ω → Prop
  | untaken (e : Failure) {w' : ω} (untaken : ¬ (t.assignment = none ∧ request.IsTaken o))
    (undoes : c.Undoes v t.id w w') : Settles c v t request o w (.error e) w'
  | unwritten (e : Failure) {w' : ω} (unassigned : t.assignment = none)
    (taken : request.IsTaken o) (same : v.contents? w' = v.contents? w) :
    Settles c v t request o w (.error e) w'
  | taken {a : Assignment} {m : TaskContents} {old : TaskRecord} {w' : ω}
    (remote : a.remoteId ≠ "") (unassigned : t.assignment = none)
    (taken : request.taken? o = .ok a.remoteId) (before : v.contents? w = some m)
    (load : m.load t.id = .ok old)
    (written : v.contents? w' = some (Function.update m t.id (some (v.entry
      { Task.toRecord { t with assignment := some a } (c.stores.now w) with
        createdAt := old.createdAt })))) :
    Settles c v t request o w (.ok { t with assignment := some a }) w'

/-- How far a submission gets by itself, and how it goes on. -/
inductive Submits (c : Scheduler ω) (v : TaskView ω) (t : Task) (s : State ω) :
    Act (State ω) (Except Failure Task) → Prop
  | refused (e : Failure) {s' : State ω} (refused : (c.stores.tasks.add t s.world).1 = .error e)
    (sound : v.IsSound s'.world) (same : v.contents? s'.world = v.contents? s.world) :
    Submits c v t s (.finished (.error e) s')
  | crashed {m : TaskContents} {s' : State ω}
    (unsent : ∀ request u,
      ¬ c.Finds t { s with world := (c.stores.tasks.add t s.world).2 } request u)
    (sound : v.IsSound s'.world) (before : v.contents? s.world = some m)
    (written : v.contents? s'.world =
      some (Function.update m t.id (some (v.entry (t.toRecord (c.stores.now s.world)))))) :
    Submits c v t s (.finished (.error .crashed) s')
  | unsent (e : Failure) {m : TaskContents} {w : ω} {s' : State ω}
    (unsent : ∀ request u,
      ¬ c.Finds t { s with world := (c.stores.tasks.add t s.world).2 } request u)
    (sound : v.IsSound s'.world) (before : v.contents? s.world = some m)
    (written : v.contents? w =
      some (Function.update m t.id (some (v.entry (t.toRecord (c.stores.now s.world))))))
    (undoes : c.Undoes v t.id w s'.world) :
    Submits c v t s (.finished (.error e) s')
  | offers {request : Http.Request} {u : State ω}
    {resume : Http.Outcome → State ω → Act (State ω) (Except Failure Task)}
    (offers : c.Offers v t s request u)
    (settles : ∀ o u', v.IsSound u'.world → ∃ result s', resume o u' = .finished result s' ∧
      v.IsSound s'.world ∧ c.Settles v t request o u'.world result s'.world) :
    Submits c v t s (.waiting request u resume)

/-- What follows a dispatch that failed.

**Proof sketch.** Without rollback nothing is done. With it the record is removed, or the store
fails and everything is as it was; the error of the dispatch is returned either way, unless the
store has crashed. -/
lemma undoes_failure (hk : c.stores.KeepTasks v) (id : String) (e : Error)
    (hs : v.IsSound s.world) :
    ∃ e' s', (do
        count fun m => { m with dispatchFailures := m.dispatchFailures + 1 }
        c.rollBack id
        Operation.fail e : Operation (State ω) Task) s = .finished (.error e') s' ∧
      v.IsSound s'.world ∧ c.Undoes v id s.world s'.world := by
  obtain ⟨u, hu⟩ : ∃ u : State ω, u = { s with
    metrics := { s.metrics with dispatchFailures := s.metrics.dispatchFailures + 1 } } := ⟨_, rfl⟩
  have hworld : u.world = s.world := by rw [hu]
  rw [← hworld] at hs ⊢
  have hrun : (do
      count fun m => { m with dispatchFailures := m.dispatchFailures + 1 }
      c.rollBack id
      Operation.fail e : Operation (State ω) Task) s =
        (c.rollBack id >>= fun _ => Operation.fail e) u := by
    rw [hu]
    rfl
  rw [hrun, Operation.bind_apply]
  unfold rollBack
  cases hasked : c.rollback with
  | false => exact ⟨_, u, rfl, hs, .kept (fun h => absurd (hasked.symm.trans h) (by simp)) rfl⟩
  | true =>
    show ∃ e' s', (Act.andThen (Act.andThen (query (c.stores.tasks.remove id) u) _) _).andThen _ =
      _ ∧ _
    rcases hremove : c.stores.tasks.remove id u.world with ⟨a, w⟩
    rw [Manager.State.query_eq hremove]
    obtain ⟨hw, ⟨⟨e', rfl⟩, hsame⟩ | ⟨m, hm, rfl, hm'⟩⟩ := hk.remove hs hremove
    · have hkept : c.Undoes v id u.world w := .kept (fun _ => ⟨e', by rw [hremove]⟩) hsame
      cases e' with
      | crashed => exact ⟨_, _, rfl, hw, hkept⟩
      | reported e' => exact ⟨_, _, rfl, hw, hkept⟩
    · exact ⟨_, _, rfl, hw, .removed hasked hm hm'⟩

/-- What follows the agreement of a worker. -/
lemma settles_agreement (hk : c.stores.KeepTasks v) {request : Http.Request} {o : Http.Outcome}
    {a : Assignment} (hne : a.remoteId ≠ "") (hunassigned : t.assignment = none)
    (htaken : request.taken? o = .ok a.remoteId) (hs : v.IsSound s.world) :
    ∃ result s', (do
        query (c.stores.tasks.update { t with assignment := some a })
        count fun m => { m with dispatched := m.dispatched + 1 }
        return { t with assignment := some a } : Operation (State ω) Task) s = .finished result s' ∧
      v.IsSound s'.world ∧ c.Settles v t request o s.world result s'.world := by
  show ∃ result s', (query (c.stores.tasks.update { t with assignment := some a }) >>= _) s = _ ∧ _
  rcases hupdate : c.stores.tasks.update { t with assignment := some a } s.world with ⟨b, w⟩
  obtain ⟨hw, ⟨⟨e, rfl⟩, hsame⟩ | ⟨m, old, hm, hload, rfl, hm'⟩⟩ := hk.update hs hupdate
  · rw [Manager.State.query_bind_error hupdate]
    exact ⟨_, _, rfl, hw, .unwritten e hunassigned ⟨_, hne, htaken⟩ hsame⟩
  · rw [Manager.State.query_bind_ok hupdate]
    exact ⟨_, _, rfl, hw, .taken hne hunassigned htaken hm hload hm'⟩

/-- **Submitting a task**: what is written, who is asked, and what is left of it.

**Proof sketch.** The selection of a worker spares the tasks, so the record that was written first
is there when the task is offered. Everything after the answer is one removal or one update. -/
theorem submits_schedule (hk : c.stores.KeepTasks v) (hs : v.IsSound s.world) (t : Task) :
    c.Submits v t s (c.schedule t s) := by
  rcases hadd : c.stores.tasks.add t s.world with ⟨b, w⟩
  obtain ⟨hw, ⟨⟨e, rfl⟩, hsame⟩ | ⟨m, hm, rfl, hm'⟩⟩ := hk.add hs hadd
  · rw [schedule, Manager.State.query_bind_error hadd]
    exact .refused e (by rw [hadd]) hw hsame
  obtain ⟨s₁, hs₁⟩ : ∃ s₁, s₁ = { s with world := (c.stores.tasks.add t s.world).2 } := ⟨_, rfl⟩
  have hworld₁ : s₁.world = w := by rw [hs₁, hadd]
  have hobserves :=
    observes_execute (c := c) hk.workers.onWorld.upholds Manager.chooses_onWorld t s₁
  rw [schedule, Manager.State.query_bind_ok hadd]
  show c.Submits v t s (((c.execute t { s with world := w }).andThen _).andThen _)
  rw [show ({ s with world := w } : State ω) = s₁ by rw [hs₁, hadd]]
  obtain ⟨e, s₂, hrun, hunsent⟩ | ⟨request, u, resume, hfinds, hrun, hend⟩ := execute_cases c t s₁
  -- whatever the search for a worker does, the tasks are as they were after the first writing
  · rw [hrun] at hobserves ⊢
    have hspared : v.sparing.leads s₁.world s₂.world := hobserves
    rw [hworld₁] at hspared
    obtain ⟨hs₂, hsame⟩ := hspared hw
    rw [hs₁] at hunsent
    cases e with
    | crashed => exact .crashed hunsent hs₂ hm (hsame.trans hm')
    | reported e =>
      obtain ⟨e', s', hfailed, hs', hundoes⟩ := undoes_failure (s := s₂) hk t.id e hs₂
      show c.Submits v t s ((do
        count fun m => { m with dispatchFailures := m.dispatchFailures + 1 }
        c.rollBack t.id
        Operation.fail e : Operation (State ω) Task) s₂)
      rw [hfailed]
      exact .unsent e' hunsent hs' hm (hsame.trans hm') hundoes
  · rw [hrun] at hobserves ⊢
    have hspared : v.sparing.leads s₁.world u.world := hobserves.1
    rw [hworld₁] at hspared
    obtain ⟨hu, hsame⟩ := hspared hw
    rw [hs₁] at hfinds
    refine .offers ⟨⟨m, hm, hsame.trans hm'⟩, hfinds, hu⟩ fun o u' hu' => ?_
    obtain ⟨s', hworld, ⟨⟨e, hresume⟩, huntaken⟩ |
      ⟨a, hne, hunassigned, htaken, hresume⟩⟩ := hend o u'
    · rw [← hworld] at hu' ⊢
      obtain ⟨e', s'', hfailed, hs'', hundoes⟩ := undoes_failure (s := s') hk t.id e hu'
      refine ⟨_, s'', ?_, hs'', .untaken e' huntaken hundoes⟩
      show ((resume o u').andThen _).andThen _ = _
      rw [hresume]
      exact hfailed
    -- the worker has taken the task, and what is left is to write the assignment
    · rw [← hworld] at hu' ⊢
      obtain ⟨result, s'', hagreed, hs'', hsettles⟩ :=
        settles_agreement hk hne hunassigned htaken hu'
      refine ⟨result, s'', ?_, hs'', hsettles⟩
      show ((resume o u').andThen _).andThen _ = _
      rw [hresume]
      exact hagreed

/-! ## A system with a task that is assigned -/

/-- A task that another worker took before. -/
def assignedTask : Task := { newTask with assignment := some ⟨"v", "r"⟩ }

/-- The state in which this task is stored, and a worker is there. -/
def stocked : State (Faulty Site) :=
  { staffed with world := ((basic false).stores.tasks.add assignedTask staffed.world).2 }

end Scheduler

section Faults

variable {config : Config} {c : Scheduler (Faulty Site)} {s : State (Faulty Site)} {t : Task}

/-- **A task that is assigned already is offered again, and then the submission fails.** What
happens is what would happen to any other task, up to the answer of the worker that is selected now;
that the task has a worker is looked at only then. So a request is sent exactly if a worker is found
to which the task can be sent. And since the submission fails, whatever the answer is, the record
stays with its assignment only if the scheduler does not remove the records of failed submissions,
or cannot do so.

**Proof sketch.** Cases on how the submission runs. Up to the answer of the worker nothing depends
on the assignment; after it the two cases in which the task is taken ask for a task without one, so
only the failing one is left. -/
theorem schedule_of_assigned (hc : c.stores = (Site.stores config).withFaults)
    (hs : config.tasks.IsUndisturbed s.world.base) {a : Assignment} (ht : t.assignment = some a) :
    (∃ e s', c.schedule t s = .finished (.error e) s' ∧
        (c.stores.tasks.add t s.world).1 = .error e ∧
        config.tasks.contents? s'.world.base = config.tasks.contents? s.world.base) ∨
      (∃ e s' m w, c.schedule t s = .finished (.error e) s' ∧
        (∀ request u,
          ¬ c.Finds t { s with world := (c.stores.tasks.add t s.world).2 } request u) ∧
        config.tasks.contents? s.world.base = some m ∧
        config.tasks.contents? w.base =
          some (Function.update m t.id
            (some (config.tasks.entry (t.toRecord (c.stores.now s.world))))) ∧
        (c.Undoes config.tasks.viewFaulty t.id w s'.world ∨ e = .crashed ∧
          config.tasks.contents? s'.world.base = config.tasks.contents? w.base)) ∨
      ∃ request u resume, c.schedule t s = .waiting request u resume ∧
        c.Offers config.tasks.viewFaulty t s request u ∧
        ∀ o u', config.tasks.IsUndisturbed u'.world.base →
          ∃ e s', resume o u' = .finished (.error e) s' ∧
            c.Undoes config.tasks.viewFaulty t.id u'.world s'.world := by
  have hassigned : t.assignment ≠ none := by simp [ht]
  have hsubmits := Scheduler.submits_schedule (keepTasks_of_stores hc) hs t
  generalize c.schedule t s = act at hsubmits ⊢
  cases hsubmits with
  | refused e refused sound same => exact .inl ⟨e, _, rfl, refused, same⟩
  | @crashed m s' unsent sound before written =>
    exact .inr (.inl ⟨.crashed, s', m, s'.world, rfl, unsent, before, written, .inr ⟨rfl, rfl⟩⟩)
  | unsent e unsent sound before written undoes =>
    exact .inr (.inl ⟨e, _, _, _, rfl, unsent, before, written, .inl undoes⟩)
  | offers offers settles =>
    refine .inr (.inr ⟨_, _, _, rfl, offers, fun o u' hu' => ?_⟩)
    obtain ⟨result, s', hresume, -, hsettles⟩ := settles o u' hu'
    cases hsettles with
    | untaken e untaken undoes => exact ⟨e, s', hresume, undoes⟩
    | unwritten e unassigned taken same => exact absurd unassigned hassigned
    | taken remote unassigned taken before load written => exact absurd unassigned hassigned

/-- A task that another worker took is offered to the worker that is there, and stays as it is if
the records of failed submissions are not removed. -/
theorem schedule_of_assigned_kept :
    TaskBackend.memory.IsUndisturbed Scheduler.stocked.world.base ∧
      Scheduler.assignedTask.assignment = some ⟨"v", "r"⟩ ∧
      ∃ request u resume,
        (Scheduler.basic false).schedule Scheduler.assignedTask Scheduler.stocked =
          .waiting request u resume ∧
        request.method = .post ∧ request.url.text = "http://a:1/task" ∧
        ∃ e s', resume Scheduler.acceptance u = .finished (.error e) s' ∧
          ((Scheduler.basic false).stores.tasks.get "t" s'.world).1 =
            .ok Scheduler.assignedTask := by
  refine ⟨trivial, rfl, ?_⟩
  have hoffered : ((Scheduler.basic false).schedule Scheduler.assignedTask
      Scheduler.stocked).request?.map (fun r => (r.method, r.url.text)) =
        some (.post, "http://a:1/task") := by
    decide +kernel
  have hget : ((Scheduler.basic false).stores.tasks.get "t"
      (((Scheduler.basic false).schedule Scheduler.assignedTask Scheduler.stocked).run
        fun _ => Scheduler.acceptance).2.world).1 = .ok Scheduler.assignedTask := by
    decide +kernel
  obtain ⟨e, s', hrun, -⟩ | ⟨e, s', m, w, hrun, -⟩ | ⟨request, u, resume, hrun, -, hends⟩ :=
    schedule_of_assigned (c := .basic false) (s := Scheduler.stocked)
      (show (Scheduler.basic false).stores = (Site.stores {}).withFaults from rfl) trivial
      (show Scheduler.assignedTask.assignment = some ⟨"v", "r"⟩ from rfl)
  · rw [hrun] at hoffered
    exact absurd hoffered (by simp [Act.request?])
  · rw [hrun] at hoffered
    exact absurd hoffered (by simp [Act.request?])
  · rw [hrun] at hoffered hget
    obtain ⟨hmethod, hurl⟩ := Prod.mk.inj (Option.some.inj hoffered)
    obtain ⟨e, s', hresume, -⟩ := hends Scheduler.acceptance u trivial
    rw [Act.run, hresume] at hget
    exact ⟨request, u, resume, hrun, hmethod, hurl, e, s', hresume, hget⟩

/-- A task that another worker took is offered to the worker that is there, and when this one has
agreed to take it as well, its record is removed with all that was known about its assignment. -/
theorem schedule_of_assigned_lost :
    ((Scheduler.basic true).stores.tasks.get "t" Scheduler.stocked.world).1 =
        .ok Scheduler.assignedTask ∧
      let offered := (Scheduler.basic true).schedule Scheduler.assignedTask Scheduler.stocked
      (offered.request?.map fun r => (r.method, r.url.text)) = some (.post, "http://a:1/task") ∧
      (offered.run fun _ => Scheduler.acceptance).1 =
        .error (.reported (.internal (.alreadyAssigned "t" "v"))) ∧
      ((Scheduler.basic true).stores.tasks.get "t"
          (offered.run fun _ => Scheduler.acceptance).2.world).1 =
        .error (.reported (.taskNotFound "t")) := by
  decide +kernel

end Faults

end ConversionScheduler
