import ConversionScheduler.Proofs.TaskStages
/-!
# The life of a task's record

Every step of a session of a scheduler makes at most one of the changes in the life of a record,
under each id, and nothing else ever touches a record, however many operations wait for their
answers in the meantime.

## Main definitions

* `Scheduler.Awaits` — what an operation that waits will do once its answer is there.
* `Scheduler.IsOrderly` — the invariant of a session.
* `Scheduler.working` — a session in which a task was taken, for examples.

## Main results

* `Scheduler.progresses_spared`, `Scheduler.progresses_within` — what leaves the tasks alone, and
  what is about one of them.
* `Scheduler.progresses_poll`, `Scheduler.progresses_told` — asking for the status of a task.
* `Scheduler.progresses_written`, `Scheduler.progresses_submit`, `Scheduler.progresses_settled` —
  submitting a task.
* `Scheduler.step_progresses` — a step makes one of the changes, under each id.
* `task_records_kept` — no record is lost, and no assignment changes.
-/

namespace ConversionScheduler

open Manager (State)

namespace Scheduler

variable {ω : Type} {c : Scheduler ω} {v : TaskView ω}

/-! ## The invariant of a session -/

/-- The operations that wait and are about the task with an id. -/
def about (ps : List (Paused Demand (State ω))) (id : String) : List (Paused Demand (State ω)) :=
  ps.filter fun p => p.demand.subject? = some id

/-- What an operation that waits will do once its answer is there. -/
inductive Awaits (c : Scheduler ω) (v : TaskView ω) (p : Paused Demand (State ω)) : Prop
  | submit {t : Task} (demand : p.demand = .submit t)
    (settles : ∀ o u, v.IsSound u.world → ∃ result s', p.resume o u = .finished result s' ∧
      v.IsSound s'.world ∧ ∃ taken, c.Settles v t p.request o u.world taken s'.world)
  | poll {id : String} {t : Task} (demand : p.demand = .poll id)
    (concludes : ∀ o u, v.IsSound u.world → ∃ result s', p.resume o u = .finished result s' ∧
      v.IsSound s'.world ∧
        ∃ told, Concludes v id t (p.request.report? o) u.world told s'.world)
  | manage (subject : p.demand.subject? = none)
    (observes : ∀ o u, (p.resume o u).Observes v.sparing.onWorld u)

/-- The invariant of a session that began in the world `start`. -/
structure IsOrderly (c : Scheduler ω) (v : TaskView ω) (start : ω)
    (n : Session Demand (State ω)) : Prop where
  sound : v.IsSound n.state.world
  awaits : ∀ p ∈ n.paused, c.Awaits v p
  stage : ∀ id, c.Stage v id (IsKnown v start n.history id) (v.kept? n.state.world id)
    (about n.paused id)

/-- A step from `n` to `n'`, in which `what` happens, makes one of the changes under each id and
keeps the invariant. -/
structure Progresses (c : Scheduler ω) (v : TaskView ω) (start : ω)
    (what : Occurrence Demand (State ω)) (n n' : Session Demand (State ω)) : Prop where
  orderly : c.IsOrderly v start n'
  history : n'.history = what :: n.history
  unused : ∀ t, what = .demanded (.submit t) → ¬ IsKnown v start n.history t.id
  change : ∀ id, c.Change v id what (v.kept? n.state.world id) (v.kept? n'.state.world id)

section Steps

variable {start : ω} {n : Session Demand (State ω)} {what : Occurrence Demand (State ω)}
  {id : String} {p : Paused Demand (State ω)} {ps before after : List (Paused Demand (State ω))}

/-- Those who wait on account of a task, in two parts of a list. -/
lemma about_append : about (before ++ after) id = about before id ++ about after id :=
  List.filter_append ..

/-- Whoever asks about a task waits on account of it. -/
lemma about_of_subject (h : p.demand.subject? = some id) : about [p] id = [p] := by
  simp [about, h]

/-- Whoever asks about another task, or about none, does not. -/
lemma about_of_ne (h : p.demand.subject? ≠ some id) : about [p] id = [] := by
  simp [about, h]

/-- Nobody asks about two tasks. -/
lemma subject_ne (h : p.demand.subject? = some id) {id' : String} (hid : id' ≠ id) :
    p.demand.subject? ≠ some id' := by
  rw [h]
  exact fun heq => hid (Option.some.inj heq).symm

/-- Whoever starts to wait on account of a task joins those who do. -/
lemma about_joined (h : p.demand.subject? = some id) :
    about (ps ++ [p]) id = about ps id ++ [p] := by
  rw [about_append, about_of_subject h]

/-- Whoever starts to wait does not wait on account of another task. -/
lemma about_joined_of_ne (h : p.demand.subject? ≠ some id) :
    about (ps ++ [p]) id = about ps id := by
  rw [about_append, about_of_ne h, List.append_nil]

/-- Those who wait on account of a task, before somebody, with that one, and after. -/
lemma about_split :
    about (before ++ p :: after) id = about before id ++ (about [p] id ++ about after id) := by
  rw [about_append, ← List.singleton_append, about_append]

/-- Whoever is done was not waiting on account of another task. -/
lemma about_removed (hsplit : n.paused = before ++ p :: after)
    (h : p.demand.subject? ≠ some id) : about (before ++ after) id = about n.paused id := by
  rw [hsplit, about_split, about_of_ne h, about_append, List.nil_append]

/-- Whoever waits and asks about a task waits on account of it. -/
lemma mem_about (hsplit : n.paused = before ++ p :: after) (h : p.demand.subject? = some id) :
    p ∈ about n.paused id := by
  rw [hsplit, about_split, about_of_subject h]
  simp

/-- Who is left when somebody is done was waiting before. -/
lemma mem_of_removed (hsplit : n.paused = before ++ p :: after) {q : Paused Demand (State ω)}
    (h : q ∈ before ++ after) : q ∈ n.paused := by
  rw [hsplit]
  simp only [List.mem_append, List.mem_cons] at h ⊢
  exact h.imp_right .inr

/-- Those who wait do what they should after one more has started to wait. -/
lemma awaits_joined (hps : ∀ q ∈ ps, c.Awaits v q) (hp : c.Awaits v p) :
    ∀ q ∈ ps ++ [p], c.Awaits v q := by
  intro q hq
  obtain hq | hq := List.mem_append.mp hq
  · exact hps q hq
  · obtain rfl := List.mem_singleton.mp hq
    exact hp

/-- They still do so after one of them is done. -/
lemma awaits_removed (h : c.IsOrderly v start n) (hsplit : n.paused = before ++ p :: after) :
    ∀ q ∈ before ++ after, c.Awaits v q :=
  fun q hq => h.awaits q (mem_of_removed hsplit hq)

/-- Only the submission of a task makes its id known. -/
lemma isKnown_cons (hwhat : ∀ t, what = .demanded (.submit t) → t.id ≠ id) :
    IsKnown v start (what :: n.history) id ↔ IsKnown v start n.history id := by
  unfold IsKnown
  refine or_congr Iff.rfl (exists_congr fun t => and_congr_left fun ht => ?_)
  rw [List.mem_cons]
  refine or_iff_right fun h => hwhat t h.symm ht

/-- **What leaves the tasks alone**: it may end, or wait on behalf of a demand that is not about any
task.

**Proof sketch.** Whether the operation ends or waits, the contents are the same as before, so
nothing is different under any id. If it waits it joins those that wait, but on account of no
task. -/
lemma progresses_spared (h : c.IsOrderly v start n)
    (hwhat : ∀ t, what ≠ .demanded (.submit t)) (hps : ∀ p ∈ ps, p ∈ n.paused)
    (habout : ∀ id, about ps id = about n.paused id) {x : Demand}
    (hx : x.subject? = none) {act : Act (State ω) (Except Failure Unit)}
    (hact : act.Observes v.sparing.onWorld n.state) :
    c.Progresses v start what n (Session.enrol x (what :: n.history) ps act) := by
  have hknown : ∀ id, IsKnown v start (what :: n.history) id ↔ IsKnown v start n.history id :=
    fun id => isKnown_cons fun t ht => absurd ht (hwhat t)
  cases act with
  | finished r s' =>
    obtain ⟨hs', hsame⟩ := hact h.sound
    have hentry : v.kept? s'.world = v.kept? n.state.world := TaskView.kept?_of_same hsame
    refine ⟨⟨hs', fun p hp => h.awaits p (hps p hp), fun id => ?_⟩, rfl,
      fun t ht => absurd ht (hwhat t), fun id => ?_⟩
    · show c.Stage v id (IsKnown v start (what :: n.history) id) (v.kept? s'.world id)
        (about ps id)
      rw [hentry, habout, propext (hknown id)]
      exact h.stage id
    · show c.Change v id what _ (v.kept? s'.world id)
      rw [hentry]
      exact .kept
  | waiting r s' k =>
    obtain ⟨hs', hsame⟩ := hact.1 h.sound
    have hentry : v.kept? s'.world = v.kept? n.state.world := TaskView.kept?_of_same hsame
    refine ⟨⟨hs', awaits_joined (fun p hp => h.awaits p (hps p hp)) (.manage hx hact.2),
      fun id => ?_⟩, rfl, fun t ht => absurd ht (hwhat t), fun id => ?_⟩
    · show c.Stage v id (IsKnown v start (what :: n.history) id) (v.kept? s'.world id)
        (about (ps ++ [_]) id)
      rw [hentry, about_joined_of_ne (by simp [hx]), habout, propext (hknown id)]
      exact h.stage id
    · show c.Change v id what _ (v.kept? s'.world id)
      rw [hentry]
      exact .kept

/-- **What is about one task**: under its id one of the changes is made, and nothing is touched
under the other ids.

**Proof sketch.** The invariant is checked for each id by itself. For the id of the task it is
given; for the others the entry is the same, the same operations wait, and what has happened has
made none of them known. -/
lemma progresses_within (h : c.IsOrderly v start n) (id : String)
    {n' : Session Demand (State ω)}
    (hhistory : n'.history = what :: n.history) (hsound : v.IsSound n'.state.world)
    (hwhat : ∀ t, what = .demanded (.submit t) → t.id = id ∧ ¬ IsKnown v start n.history id)
    (hawaits : ∀ p ∈ n'.paused, c.Awaits v p)
    (habout : ∀ id', id' ≠ id → about n'.paused id' = about n.paused id')
    (hentry : ∀ id', id' ≠ id → v.kept? n'.state.world id' = v.kept? n.state.world id')
    (hstage : c.Stage v id (IsKnown v start (what :: n.history) id) (v.kept? n'.state.world id)
      (about n'.paused id))
    (hchange : c.Change v id what (v.kept? n.state.world id) (v.kept? n'.state.world id)) :
    c.Progresses v start what n n' := by
  refine ⟨⟨hsound, hawaits, fun id' => ?_⟩, hhistory, fun t ht => ?_, fun id' => ?_⟩
  · rw [hhistory]
    by_cases hid : id' = id
    · rw [hid]
      exact hstage
    · rw [habout id' hid, hentry id' hid,
        propext (isKnown_cons fun t ht heq => hid (heq.symm.trans (hwhat t ht).1))]
      exact h.stage id'
  · obtain ⟨hid, hunknown⟩ := hwhat t ht
    rw [hid]
    exact hunknown
  · by_cases hid : id' = id
    · rw [hid]
      exact hchange
    · rw [hentry id' hid]
      exact .kept

/-! ### Asking for the status -/

/-- Somebody asks for the status of a task.

**Proof sketch.** Reading the record changes nothing, so what is kept is the same under every id. If
a worker is asked, one more operation waits, and it has read the assignment in the record that is
there. That is what the stage of the record requires of it. -/
lemma progresses_poll (hk : c.stores.KeepTasks v) (hfaithful : v.IsFaithful)
    (h : c.IsOrderly v start n) (id : String) :
    c.Progresses v start (.demanded (.poll id)) n (n.begin (Demand.run c) (.poll id)) := by
  have hspared : ∀ (r : Except Failure Unit) (s' : State ω),
      v.sparing.leads n.state.world s'.world → c.Progresses v start (.demanded (.poll id)) n
        (Session.enrol (.poll id) (.demanded (.poll id) :: n.history) n.paused (.finished r s')) :=
    fun r s' hs' => progresses_spared (x := .stop) h (by simp) (fun _ hp => hp) (fun _ => rfl) rfl
      (show (Act.finished r s').Observes v.sparing.onWorld n.state from hs')
  unfold Session.begin
  rw [show Demand.run c (.poll id) n.state =
    (c.status id n.state).andThen fun r t => .finished (r.map fun _ => ()) t from
      Operation.discard_apply _ _]
  have hpolls := polls_status hk h.sound id
  generalize c.status id n.state = act at hpolls ⊢
  cases hpolls with
  | refused e spared => exact hspared _ _ spared
  | untaken read unassigned spared => exact hspared _ _ spared
  | @asks r a request u resume asks concludes =>
    obtain ⟨hu, hsame⟩ := asks.spared h.sound
    have hentry : v.kept? u.world = v.kept? n.state.world := TaskView.kept?_of_same hsame
    obtain ⟨p, hp⟩ : ∃ p : Paused Demand (State ω), p = ⟨.poll id, u, request, fun o s' =>
      (resume o s').andThen fun r t => .finished (r.map fun _ => ()) t⟩ := ⟨_, rfl⟩
    have hsubject : p.demand.subject? = some id := by rw [hp]; rfl
    show c.Progresses v start _ n ⟨u, .demanded (.poll id) :: n.history, n.paused ++ [_]⟩
    rw [← hp]
    have hawaits : c.Awaits v p := by
      rw [hp]
      refine .poll (t := .ofRecord r) rfl fun o s hs => ?_
      obtain ⟨told, s', hresume, hs', hends⟩ := concludes o s hs
      refine ⟨told.map fun _ => (), s', ?_, hs', told, hends⟩
      show (resume o s).andThen _ = _
      rw [hresume]
      rfl
    refine progresses_within h id rfl hu (by simp) (awaits_joined h.awaits hawaits)
      (fun id' hid => about_joined_of_ne (subject_ne hsubject hid))
      (fun id' _ => congrFun hentry id') ?_ ?_
    -- nothing is written by asking, so only the number of those who ask changes
    · show c.Stage v id _ (v.kept? u.world id) (about (n.paused ++ [p]) id)
      obtain ⟨e, he, hread⟩ := TaskView.kept?_of_reads asks.read
      rw [hentry, about_joined hsubject, propext (isKnown_cons (by simp))]
      exact (h.stage id).asked hfaithful (by rw [hp]) he hread (by rw [hp]; exact asks)
    · show c.Change v id _ _ (v.kept? u.world id)
      rw [hentry]
      exact .kept

/-- A record is removed when its worker has reported the end of the task, and nothing else happens
to any record. -/
lemma kept?_of_concludes {t : Task} {told : Except Failure TaskReport}
    {report : Except CallFault WorkerReport} {w w' : ω}
    (h : Concludes v id t report w told w') :
    v.kept? w' = v.kept? w ∨
      (∃ said, report = .ok said ∧ said.state.isTerminal = true) ∧
        ∀ id', v.kept? w' id' = if id' = id then none else v.kept? w id' := by
  cases h with
  | refused e same => exact .inl (TaskView.kept?_of_same same)
  | unended said unended same => exact .inl (TaskView.kept?_of_same same)
  | ended said ended before removed =>
    exact .inr ⟨⟨_, said, ended⟩, TaskView.kept?_of_write before removed⟩

/-- The worker of a task has answered.

**Proof sketch.** By the stage, the record that was read is still there, or it has been removed. The
answer leaves what is there or removes it, and it removes it only if it tells that the task has
ended. Whoever else has read the record goes on waiting, with nothing more to find than before. -/
lemma progresses_told (h : c.IsOrderly v start n) (hsplit : n.paused = before ++ p :: after)
    (hdemand : p.demand = .poll id) {t : Task}
    (concludes : ∀ o u, v.IsSound u.world → ∃ result s', p.resume o u = .finished result s' ∧
      v.IsSound s'.world ∧ ∃ told, Concludes v id t (p.request.report? o) u.world told s'.world)
    (o : Http.Outcome) :
    c.Progresses v start (.answered p o) n (Session.enrol p.demand (.answered p o :: n.history)
      (before ++ after) (p.resume o n.state)) := by
  obtain ⟨result, s', hresume, hs', told, hends⟩ := concludes o n.state h.sound
  have hsubject : p.demand.subject? = some id := by rw [hdemand]; rfl
  have hentry := kept?_of_concludes hends
  obtain ⟨⟨e₀, w, r, a, hheld, hasks, hread⟩, hsettled⟩ :=
    (h.stage id).of_poll (mem_about hsplit hsubject) hdemand
  have hfewer : ∀ q ∈ about (before ++ after) id, q ∈ about n.paused id := by
    intro q hq
    obtain ⟨hq, hsub⟩ := List.mem_filter.mp hq
    exact List.mem_filter.mpr ⟨mem_of_removed hsplit hq, hsub⟩
  rw [hresume]
  refine progresses_within h id rfl hs' (by simp) (awaits_removed h hsplit)
    (fun id' hid => about_removed hsplit (subject_ne hsubject hid)) (fun id' hid => ?_) ?_ ?_
  · show v.kept? s'.world id' = _
    obtain hsame | ⟨-, hgone⟩ := hentry
    · rw [hsame]
    · rw [hgone, if_neg hid]
  · show c.Stage v id _ (v.kept? s'.world id) (about (before ++ after) id)
    rw [propext (isKnown_cons (by simp))]
    refine hsettled _ _ ?_ hfewer
    obtain hsame | ⟨-, hgone⟩ := hentry
    · exact .inl (congrFun hsame id)
    · exact .inr (by rw [hgone, if_pos rfl])
  · show c.Change v id _ _ (v.kept? s'.world id)
    obtain hsame | ⟨⟨report, hsaid, hended⟩, hgone⟩ := hentry
    · rw [hsame]
      exact .kept
    · rw [hgone, if_pos rfl]
      obtain hheld | hheld := hheld
      · rw [hheld]
        exact .ended hdemand hread hasks hsaid hended
      · rw [hheld]
        exact .kept

/-! ### Submitting a task -/

/-- An id that was used, with nobody waiting on account of it. -/
lemma Stage.closed {known : Prop} (hknown : known) (e : Option TaskEntry) :
    c.Stage v id known e [] := by
  cases e with
  | none =>
    have hheld : none = some (TaskEntry.text "") ∨ (none : Option TaskEntry) = none := .inr rfl
    exact .settled hknown hheld fun p hp => absurd hp (by simp)
  | some e₀ => exact .settled hknown (.inl rfl) fun p hp => absurd hp (by simp)

/-- Where a submission is undone, everything stays as it was, or the record is gone. -/
lemma kept?_of_undoes {w w' : ω} (h : c.Undoes v id w w') :
    v.kept? w' = v.kept? w ∨
      c.rollback = true ∧ ∀ id', v.kept? w' id' = if id' = id then none else v.kept? w id' := by
  cases h with
  | kept refused same => exact .inl (TaskView.kept?_of_same same)
  | removed asked before removed => exact .inr ⟨asked, TaskView.kept?_of_write before removed⟩

/-- The record of a task is written, or nothing is, when the submission of the task has begun.

**Proof sketch.** The id was unknown, so nothing was kept under it and nothing was waiting for it.
What is kept now is nothing, or the unassigned record just written; other ids are as they were. -/
lemma progresses_written (h : c.IsOrderly v start n) {t : Task} (hunassigned : t.assignment = none)
    (hunknown : ¬ IsKnown v start n.history t.id) {u : State ω} (hu : v.IsSound u.world)
    {e : Option TaskEntry} (he : e = none ∨ ∃ now, e = some (v.entry (t.toRecord now)))
    (hentry : ∀ id, v.kept? u.world id = if id = t.id then e else v.kept? n.state.world id)
    (hawaits : ∀ q ∈ ps, c.Awaits v q)
    (habout : ∀ id, id ≠ t.id → about ps id = about n.paused id)
    (hstage : c.Stage v t.id True e (about ps t.id)) :
    c.Progresses v start (.demanded (.submit t)) n ⟨u, .demanded (.submit t) :: n.history, ps⟩ := by
  have hknown : IsKnown v start (.demanded (.submit t) :: n.history) t.id :=
    .inr ⟨t, List.mem_cons_self .., rfl⟩
  refine progresses_within h t.id rfl hu (fun t' ht' => ?_) hawaits habout
    (fun id hid => (hentry id).trans (if_neg hid)) ?_ ?_
  · obtain rfl := Demand.submit.inj (Occurrence.demanded.inj ht')
    exact ⟨rfl, hunknown⟩
  · show c.Stage v t.id _ (v.kept? u.world t.id) (about ps t.id)
    rw [hentry, if_pos rfl, eq_true hknown]
    exact hstage
  · show c.Change v t.id _ _ (v.kept? u.world t.id)
    rw [hentry, if_pos rfl, ((h.stage t.id).of_unknown hunknown).1]
    obtain rfl | ⟨now, rfl⟩ := he
    · exact .kept
    · exact .written rfl hunassigned

/-- A task is submitted.

**Proof sketch.** The id was not known, so nothing is kept under it and nobody waits on account of
it. The submission may end before a request is made, with its record written or not, or taken back.
Otherwise it is the one operation that waits on account of the task, and the bare record is
there. -/
lemma progresses_submit (hk : c.stores.KeepTasks v) (h : c.IsOrderly v start n) {t : Task}
    (hunassigned : t.assignment = none) (hunknown : ¬ IsKnown v start n.history t.id) :
    c.Progresses v start (.demanded (.submit t)) n (n.begin (Demand.run c) (.submit t)) := by
  obtain ⟨hnone, habout⟩ := (h.stage t.id).of_unknown hunknown
  -- The submission may end at once, with its record or without it.
  have hends : ∀ (r : Except Failure Unit) (s' : State ω) (e : Option TaskEntry),
      v.IsSound s'.world → (e = none ∨ ∃ now, e = some (v.entry (t.toRecord now))) →
      (∀ id, v.kept? s'.world id = if id = t.id then e else v.kept? n.state.world id) →
      c.Progresses v start (.demanded (.submit t)) n
        (Session.enrol (.submit t) (.demanded (.submit t) :: n.history) n.paused
          (.finished r s')) :=
    fun r s' e hs' he hentry => progresses_written h hunassigned hunknown hs' he hentry h.awaits
      (fun _ _ => rfl) (by rw [habout]; exact .closed trivial e)
  unfold Session.begin
  rw [show Demand.run c (.submit t) n.state =
    (c.schedule t n.state).andThen fun r t => .finished (r.map fun _ => ()) t from
      Operation.discard_apply _ _]
  have hsubmits := submits_schedule hk h.sound t
  generalize c.schedule t n.state = act at hsubmits ⊢
  cases hsubmits with
  | refused e refused sound same =>
    refine hends _ _ none sound (.inl rfl) fun id => ?_
    rw [TaskView.kept?_of_same same]
    split
    · rename_i hid
      rw [hid, hnone]
    · rfl
  | crashed unsent sound before written =>
    exact hends _ _ _ sound (.inr ⟨_, rfl⟩) (TaskView.kept?_of_write before written)
  | unsent e unsent sound before written undoes =>
    have hwrite := TaskView.kept?_of_write before written
    obtain hsame | ⟨-, hgone⟩ := kept?_of_undoes undoes
    · exact hends _ _ _ sound (.inr ⟨_, rfl⟩) fun id => by rw [hsame, hwrite]
    · refine hends _ _ none sound (.inl rfl) fun id => ?_
      rw [hgone, hwrite]
      split <;> rfl
  | @offers request u resume offers settles =>
    obtain ⟨m, before, written⟩ := offers.written
    obtain ⟨p, hp⟩ : ∃ p : Paused Demand (State ω), p = ⟨.submit t, u, request, fun o s' =>
      (resume o s').andThen fun r t => .finished (r.map fun _ => ()) t⟩ := ⟨_, rfl⟩
    have hsubject : p.demand.subject? = some t.id := by rw [hp]; rfl
    -- it waits for the answer of the worker, and settles whatever has happened until then
    have hawaits : c.Awaits v p := by
      rw [hp]
      refine .submit rfl fun o s hs => ?_
      obtain ⟨taken, s', hresume, hs', hsettles⟩ := settles o s hs
      refine ⟨taken.map fun _ => (), s', ?_, hs', taken, hsettles⟩
      show (resume o s).andThen _ = _
      rw [hresume]
      rfl
    show c.Progresses v start _ n ⟨u, .demanded (.submit t) :: n.history, n.paused ++ [_]⟩
    rw [← hp]
    refine progresses_written h hunassigned hunknown offers.sound (.inr ⟨_, rfl⟩)
      (TaskView.kept?_of_write before written) (awaits_joined h.awaits hawaits)
      (fun id hid => about_joined_of_ne (subject_ne hsubject hid)) ?_
    rw [about_joined hsubject, habout]
    exact .offered trivial (by rw [hp]) rfl hunassigned

/-- What an answer of the worker to whom a task was offered makes of the record.

**Proof sketch.** If the worker has not taken the task, the record stays or is removed. If it has,
the assignment is written, or everything stays as it was. The record that is there is the bare one,
so an assignment is written where there was none. -/
lemma change_of_settles {t : Task} {o : Http.Outcome} {taken : Except Failure Task}
    {w w' : ω} {now : Timestamp} (hdemand : p.demand = .submit t)
    (hunassigned : t.assignment = none) (hbare : v.kept? w t.id = some (v.entry (t.toRecord now)))
    (h : c.Settles v t p.request o w taken w') :
    ∃ e, c.Change v t.id (.answered p o) (v.kept? w t.id) e ∧
      ∀ id, v.kept? w' id = if id = t.id then e else v.kept? w id := by
  have hsame : v.contents? w' = v.contents? w → ∃ e,
      c.Change v t.id (.answered p o) (v.kept? w t.id) e ∧
        ∀ id, v.kept? w' id = if id = t.id then e else v.kept? w id :=
    fun hsame => ⟨_, .kept, fun id => by
      rw [TaskView.kept?_of_same hsame]
      split
      · rename_i hid
        rw [hid]
      · rfl⟩
  rw [hbare] at hsame ⊢
  cases h with
  | untaken e untaken undoes =>
    cases undoes with
    | kept refused same => exact hsame same
    | removed asked before removed =>
      exact ⟨none, .rolledBack hdemand rfl hunassigned asked fun htaken =>
        untaken ⟨hunassigned, htaken⟩, TaskView.kept?_of_write before removed⟩
  | unwritten e unassigned taken same => exact hsame same
  | taken remote unassigned taken before load written =>
    exact ⟨_, .taken hdemand rfl unassigned remote taken,
      TaskView.kept?_of_write before written⟩

/-- The worker to whom a task was offered has answered.

**Proof sketch.** By the stage, the submission is the only operation that waits on account of the
task, and the bare record is there. Once the answer has come nobody waits any more, and the record
stays, is removed, or has the assignment written into it. -/
lemma progresses_settled (h : c.IsOrderly v start n) (hsplit : n.paused = before ++ p :: after)
    {t : Task} (hdemand : p.demand = .submit t)
    (settles : ∀ o u, v.IsSound u.world → ∃ result s', p.resume o u = .finished result s' ∧
      v.IsSound s'.world ∧ ∃ taken, c.Settles v t p.request o u.world taken s'.world)
    (o : Http.Outcome) :
    c.Progresses v start (.answered p o) n (Session.enrol p.demand (.answered p o :: n.history)
      (before ++ after) (p.resume o n.state)) := by
  obtain ⟨result, s', hresume, hs', taken, hsettles⟩ := settles o n.state h.sound
  have hsubject : p.demand.subject? = some t.id := by rw [hdemand]; rfl
  obtain ⟨hknown, -, hunassigned, halone, now, hbare⟩ :=
    (h.stage t.id).of_submit (mem_about hsplit hsubject) hdemand
  have hnobody : about (before ++ after) t.id = [] := by
    have hlength := congrArg List.length halone
    rw [hsplit, about_split, about_of_subject hsubject] at hlength
    rw [about_append, ← List.length_eq_zero_iff]
    simp only [List.length_append, List.length_singleton] at hlength ⊢
    omega
  obtain ⟨e, hchange, hentry⟩ := change_of_settles hdemand hunassigned hbare hsettles
  rw [hresume]
  refine progresses_within h t.id rfl hs' (by simp) (awaits_removed h hsplit)
    (fun id hid => about_removed hsplit (subject_ne hsubject hid))
    (fun id hid => (hentry id).trans (if_neg hid)) ?_ ?_
  · show c.Stage v t.id _ (v.kept? s'.world t.id) (about (before ++ after) t.id)
    rw [propext (isKnown_cons (by simp)), hentry, if_pos rfl, hnobody]
    exact .closed hknown e
  · show c.Change v t.id _ _ (v.kept? s'.world t.id)
    rw [hentry, if_pos rfl]
    exact hchange

/-! ### Every step -/

/-- **Every step makes one of the changes, under each id**, and keeps the invariant.

**Proof sketch.** By cases on the step. Anything that is not about a task leaves the tasks alone;
submissions and questions about a task make their changes when they begin and when they are
answered, and the invariant tells which of them the answer is for. -/
theorem step_progresses (hk : c.stores.KeepTasks v) (hfaithful : v.IsFaithful)
    (h : c.IsOrderly v start n) {n' : Session Demand (State ω)}
    (hstep : Session.Step (c.conditions v start) n n') :
    ∃ what, c.Progresses v start what n n' := by
  cases hstep with
  | @idle s' hidle =>
    exact ⟨.idle, progresses_spared (x := .stop) h (by simp) (fun _ hp => hp) (fun _ => rfl) rfl
      (show (Act.finished (.ok ()) s').Observes v.sparing.onWorld n.state from hidle)⟩
  | @begin x hadmits =>
    refine ⟨.demanded x, ?_⟩
    cases x with
    | submit t =>
      obtain ⟨hunassigned, hunknown⟩ := hadmits t rfl
      exact progresses_submit hk h hunassigned hunknown
    | poll id => exact progresses_poll hk hfaithful h id
    | manage a =>
      exact progresses_spared h (by simp) (fun _ hp => hp) (fun _ => rfl) rfl
        (Demand.observes_action (c := c) hk.workers.onWorld.upholds a
          (fun _ => Manager.chooses_onWorld) n.state)
    | stop =>
      exact progresses_spared h (by simp) (fun _ hp => hp) (fun _ => rfl) rfl
        (Demand.observes_stop hk n.state)
  | answer hi o =>
    obtain ⟨before, p, after, hsplit, heq⟩ := Session.answer_eq hi o
    refine ⟨.answered p o, ?_⟩
    rw [heq]
    cases h.awaits p (by rw [hsplit]; simp) with
    | submit demand settles => exact progresses_settled h hsplit demand settles o
    | poll demand concludes => exact progresses_told h hsplit demand concludes o
    | manage subject observes =>
      exact progresses_spared h (by simp) (fun _ => mem_of_removed hsplit)
        (fun id => about_removed hsplit (by simp [subject])) subject (observes o n.state)

/-! ## Whole sessions -/

/-- A session begins in order, whatever tasks there are in the store. -/
lemma isOrderly_start {s : State ω} (hs : v.IsSound s.world) :
    c.IsOrderly v s.world ⟨s, [], []⟩ := by
  refine ⟨hs, fun p hp => absurd hp (by simp), fun id => ?_⟩
  show c.Stage v id (IsKnown v s.world [] id) (v.kept? s.world id) []
  by_cases hknown : IsKnown v s.world [] id
  · exact .closed hknown _
  · have hnone : v.kept? s.world id = none := by
      by_contra h
      exact hknown (.inl h)
    rw [hnone]
    exact .fresh hknown

/-- A session stays in order, whatever steps are made. -/
lemma IsOrderly.later (hk : c.stores.KeepTasks v) (hfaithful : v.IsFaithful)
    (h : c.IsOrderly v start n) {n' : Session Demand (State ω)}
    (hlater : Session.Later (c.conditions v start) n n') : c.IsOrderly v start n' := by
  induction hlater with
  | refl => exact h
  | tail _ hstep ih =>
    obtain ⟨what, hprogresses⟩ := step_progresses hk hfaithful ih hstep
    exact hprogresses.orderly

/-- What is read from a record that was written for a task. -/
lemma ids_of_entry (hfaithful : v.IsFaithful) (created : Timestamp) {t : Task} {now : Timestamp}
    {r : TaskRecord}
    (h : (v.entry { t.toRecord now with createdAt := created }).record? t.id = .ok r) :
    r.workerId = t.assignment.map (·.workerId) ∧
      r.workerTaskId = t.assignment.map (·.remoteId) := by
  rw [hfaithful _ _ h]
  exact ⟨rfl, rfl⟩

/-- The entry that was written for a task without an assignment names no worker. -/
lemma not_isAssigned_of_entry (hfaithful : v.IsFaithful) {t : Task}
    (hunassigned : t.assignment = none) (now : Timestamp) :
    ¬ (v.entry (t.toRecord now)).IsAssigned t.id := by
  rintro ⟨r, hread, hids⟩
  obtain ⟨hworker, hremote⟩ := ids_of_entry hfaithful t.createdAt hread
  rw [hworker, hremote, hunassigned] at hids
  simp at hids

/-- An assigned entry stays, or is removed; and so it is with an id under which nothing is kept any
more.

**Proof sketch.** By induction on the session. An id that is known stays so, hence no submission
writes under it again; and what is there names a worker, so no assignment is written into it. -/
lemma kept_or_gone (hk : c.stores.KeepTasks v) (hfaithful : v.IsFaithful)
    (h : c.IsOrderly v start n) {e : TaskEntry} (he : v.kept? n.state.world id = some e)
    (hassigned : e.IsAssigned id) {n' : Session Demand (State ω)}
    (hlater : Session.Later (c.conditions v start) n n') :
    v.kept? n'.state.world id = some e ∨ v.kept? n'.state.world id = none := by
  suffices (v.kept? n'.state.world id = some e ∨ v.kept? n'.state.world id = none) ∧
      IsKnown v start n'.history id from this.1
  induction hlater with
  | refl =>
    refine ⟨.inl he, ?_⟩
    by_contra hunknown
    exact absurd (he.symm.trans ((h.stage id).of_unknown hunknown).1) (by simp)
  | @tail m m' hm hstep ih =>
    obtain ⟨what, hprogresses⟩ := step_progresses hk hfaithful (h.later hk hfaithful hm) hstep
    obtain ⟨hheld, hknown⟩ := ih
    refine ⟨?_, ?_⟩
    · have hchange := hprogresses.change id
      generalize v.kept? m.state.world id = x at hchange hheld
      generalize v.kept? m'.state.world id = y at hchange ⊢
      cases hchange with
      | kept => exact hheld
      | written subject => exact absurd (subject ▸ hknown) (hprogresses.unused _ rfl)
      | taken demand subject unassigned =>
        obtain hheld | hheld := hheld
        · subst subject
          obtain rfl := Option.some.inj hheld
          exact absurd hassigned (not_isAssigned_of_entry hfaithful unassigned _)
        · exact absurd hheld (by simp)
      | rolledBack => exact .inr rfl
      | ended => exact .inr rfl
    · rw [hprogresses.history]
      exact hknown.imp_right fun ⟨t, ht, hid⟩ => ⟨t, List.mem_cons_of_mem _ ht, hid⟩

/-- A record that was not there at the start names both a worker and the id that the worker knows
the task by, or neither.

**Proof sketch.** By induction on the session, going back to the step that wrote the entry: a
submission writes neither of the two, and a worker that has taken the task is written with both. -/
lemma ids_of_later (hk : c.stores.KeepTasks v) (hfaithful : v.IsFaithful)
    (h : c.IsOrderly v start n) {n' : Session Demand (State ω)}
    (hlater : Session.Later (c.conditions v start) n n') {e : TaskEntry}
    (he : v.kept? n'.state.world id = some e) {r : TaskRecord} (hread : e.record? id = .ok r) :
    v.kept? n.state.world id = some e ∨ r.workerId.isSome = r.workerTaskId.isSome := by
  induction hlater generalizing e with
  | refl => exact .inl he
  | @tail m m' hm hstep ih =>
    obtain ⟨what, hprogresses⟩ := step_progresses hk hfaithful (h.later hk hfaithful hm) hstep
    have hchange := hprogresses.change id
    rw [he] at hchange
    generalize hx : v.kept? m.state.world id = x at hchange
    cases hchange with
    | kept => exact ih hx hread
    | written subject =>
      subst subject
      obtain ⟨hworker, hremote⟩ := ids_of_entry hfaithful (Task.createdAt _) hread
      right
      rw [hworker, hremote, Option.isSome_map, Option.isSome_map]
    | taken demand subject =>
      subst subject
      obtain ⟨hworker, hremote⟩ := ids_of_entry hfaithful _ hread
      right
      rw [hworker, hremote, Option.isSome_map, Option.isSome_map]

/-- What can remove an entry.

**Proof sketch.** Of the changes in the life of a record two remove one. A submission that is taken
back removes a bare record, and an answer that tells the end of the task removes the one that its
operation has read. -/
lemma removal_cases (hk : c.stores.KeepTasks v) (hfaithful : v.IsFaithful)
    (h : c.IsOrderly v start n) {e : TaskEntry} (he : v.kept? n.state.world id = some e)
    {n' : Session Demand (State ω)} (hstep : Session.Step (c.conditions v start) n n')
    (hgone : v.kept? n'.state.world id = none) :
    ∃ p o, n'.history = .answered p o :: n.history ∧
      (e.IsAssigned id ∧ p.demand = .poll id ∧
          (∃ w r a report, e.record? id = .ok r ∧ c.Asks v id w r a p.request p.since.world ∧
            p.request.report? o = .ok report ∧ report.state.isTerminal = true) ∨
        ¬ e.IsAssigned id ∧
          ∃ t, p.demand = .submit t ∧ t.id = id ∧ c.rollback = true ∧ ¬ p.request.IsTaken o) := by
  obtain ⟨what, hprogresses⟩ := step_progresses hk hfaithful h hstep
  have hchange := hprogresses.change id
  have hhistory := hprogresses.history
  rw [he, hgone] at hchange
  cases hchange with
  | rolledBack demand subject unassigned asked untaken =>
    refine ⟨_, _, hhistory, .inr ⟨?_, _, demand, subject, asked, untaken⟩⟩
    subst subject
    exact not_isAssigned_of_entry hfaithful unassigned _
  | @ended p o e w r a report demand read asks said ended =>
    refine ⟨p, o, hhistory, .inl ⟨⟨r, read, .inl fun hnone => ?_⟩, demand, w, r, a, report, read,
      asks, said, ended⟩⟩
    exact absurd asks.assigned (by simp [Task.ofRecord, Task.assignmentOf, hnone])

end Steps

end Scheduler

/-! ## The stores of a configuration -/

/-- A record in either kind of store is read again as it was written, except for the free-form data
maybe. -/
lemma TaskBackend.isFaithful_viewFaulty (b : TaskBackend) : b.viewFaulty.IsFaithful := by
  intro r r' hread
  cases b with
  | memory =>
    obtain rfl := Except.ok.inj hread
    rfl
  | redis t => exact RedisTasks.record?_render_eq hread

section Faults

variable {config : Config} {c : Scheduler (Faulty Site)} {s : State (Faulty Site)}
  {n : Session Scheduler.Demand (State (Faulty Site))}

/-- **No task record is lost, and no assignment changes.** In a session of a scheduler, over the
stores of any configuration, whose calls may fail, tasks are submitted, each once and without an
assignment; other operations come in between, at any time and in any number, also while some of them
wait for a worker.

A record then names both a worker and the id that this worker knows the task by, or neither, unless
it was there before the session began. Once a record names a worker, it stays as it is until it is
removed. What removes such a record is the report of its worker that the task has ended, in answer
to the request that somebody made who had asked for the status of the task. What removes a record
that does not name a worker is that nobody took the task when it was submitted, provided that the
scheduler is to remove such records.

**Proof sketch.** The invariant says for each id where its record stands and which of the
operations that wait are about it: before the submission there is neither; while the task is being
offered there is only that one operation; and from then on there is one record at most that can be
kept under the id, which is the one that all who are asking the worker have read. -/
theorem task_records_kept (hc : c.stores = (Site.stores config).withFaults)
    (hs : config.tasks.IsUndisturbed s.world.base)
    (h : Session.Later (c.conditions config.tasks.viewFaulty s.world) ⟨s, [], []⟩ n) (id : String)
    {e : TaskEntry} (he : config.tasks.viewFaulty.kept? n.state.world id = some e) :
    (∀ r, e.record? id = .ok r → config.tasks.viewFaulty.kept? s.world id = some e ∨
        r.workerId.isSome = r.workerTaskId.isSome) ∧
      (e.IsAssigned id → ∀ n',
        Session.Later (c.conditions config.tasks.viewFaulty s.world) n n' →
        config.tasks.viewFaulty.kept? n'.state.world id = some e ∨
          config.tasks.viewFaulty.kept? n'.state.world id = none) ∧
      ∀ n', Session.Step (c.conditions config.tasks.viewFaulty s.world) n n' →
        config.tasks.viewFaulty.kept? n'.state.world id = none →
        ∃ p o, n'.history = .answered p o :: n.history ∧
          (e.IsAssigned id ∧ p.demand = .poll id ∧
              (∃ w r a report, e.record? id = .ok r ∧
                c.Asks config.tasks.viewFaulty id w r a p.request p.since.world ∧
                p.request.report? o = .ok report ∧ report.state.isTerminal = true) ∨
            ¬ e.IsAssigned id ∧ ∃ t, p.demand = .submit t ∧ t.id = id ∧ c.rollback = true ∧
              ¬ p.request.IsTaken o) := by
  have hk := keepTasks_of_stores hc
  have hfaithful := config.tasks.isFaithful_viewFaulty
  have hstart : c.IsOrderly config.tasks.viewFaulty s.world ⟨s, [], []⟩ :=
    Scheduler.isOrderly_start hs
  have horderly := hstart.later hk hfaithful h
  exact ⟨fun r hread => Scheduler.ids_of_later hk hfaithful hstart h he hread,
    fun hassigned n' hlater => Scheduler.kept_or_gone hk hfaithful horderly he hassigned hlater,
    fun n' hstep hgone => Scheduler.removal_cases hk hfaithful horderly he hstep hgone⟩

/-- A worker registers and takes a task, and somebody asks for the status of the task. -/
def Scheduler.working : Session Scheduler.Demand (State (Faulty Site)) :=
  let run := Scheduler.Demand.run (Scheduler.basic true)
  ((((⟨Scheduler.initialFaulty, [], []⟩ : Session Scheduler.Demand (State (Faulty Site))).begin run
    (.manage (.register ⟨"w", "a:1", 3⟩))).begin run (.submit Scheduler.newTask)).answer 0
      Scheduler.acceptance).begin run (.poll "t")

/-- The session of the example gets to the state in which somebody waits for the status. -/
lemma Scheduler.later_working :
    Session.Later ((Scheduler.basic true).conditions TaskBackend.memory.viewFaulty
      Scheduler.initialFaulty.world) ⟨Scheduler.initialFaulty, [], []⟩ Scheduler.working := by
  refine .tail (.tail (.tail (.tail .refl (.begin ?_)) (.begin ?_)) (.answer ?_ _)) (.begin ?_)
  · exact fun t ht => absurd ht (by simp)
  · intro t ht
    obtain rfl := Scheduler.Demand.submit.inj ht
    refine ⟨rfl, ?_⟩
    rintro (hthere | ⟨t', ht', -⟩)
    · exact hthere (by decide +kernel)
    · exact absurd ht' (by simp [Session.begin])
  · decide +kernel
  · exact fun t ht => absurd ht (by simp)

/-- The record of a task that was taken is there with its assignment while its worker is asked, and
is removed by the answer that the task is done. -/
theorem task_records_kept_until_done :
    TaskBackend.memory.IsUndisturbed Scheduler.initialFaulty.world.base ∧
      Session.Later ((Scheduler.basic true).conditions TaskBackend.memory.viewFaulty
        Scheduler.initialFaulty.world) ⟨Scheduler.initialFaulty, [], []⟩ Scheduler.working ∧
      ∃ e, TaskBackend.memory.viewFaulty.kept? Scheduler.working.state.world "t" = some e ∧
        e.IsAssigned "t" ∧
        TaskBackend.memory.viewFaulty.kept?
          (Scheduler.working.answer 0 Scheduler.completion).state.world "t" = none ∧
        ∃ p o, (Scheduler.working.answer 0 Scheduler.completion).history =
            .answered p o :: Scheduler.working.history ∧ p.demand = .poll "t" ∧
          ∃ report, p.request.report? o = .ok report ∧ report.state.isTerminal = true := by
  obtain ⟨e, he⟩ : ∃ e, e = TaskEntry.record
    (Task.toRecord { Scheduler.newTask with assignment := some ⟨"w", "r"⟩ } .epoch) := ⟨_, rfl⟩
  have hheld : TaskBackend.memory.viewFaulty.kept? Scheduler.working.state.world "t" = some e := by
    rw [he]
    decide +kernel
  have hassigned : e.IsAssigned "t" := by
    rw [he]
    exact ⟨_, rfl, .inl (by decide)⟩
  have hgone : TaskBackend.memory.viewFaulty.kept?
      (Scheduler.working.answer 0 Scheduler.completion).state.world "t" = none := by
    decide +kernel
  obtain ⟨-, -, hremoved⟩ := task_records_kept (c := .basic true)
    (show (Scheduler.basic true).stores = (Site.stores {}).withFaults from rfl) trivial
    Scheduler.later_working "t" hheld
  have hstep : Session.Step ((Scheduler.basic true).conditions TaskBackend.memory.viewFaulty
      Scheduler.initialFaulty.world) Scheduler.working
        (Scheduler.working.answer 0 Scheduler.completion) :=
    .answer (by decide +kernel) Scheduler.completion
  obtain ⟨p, o, hhistory, ⟨-, hdemand, -, -, -, report, -, -, hsaid, hended⟩ | ⟨hunassigned, -⟩⟩ :=
    hremoved _ hstep hgone
  · exact ⟨trivial, Scheduler.later_working, e, hheld, hassigned, hgone, p, o, hhistory, hdemand,
      report, hsaid, hended⟩
  · exact absurd hassigned hunassigned

end Faults

end ConversionScheduler
