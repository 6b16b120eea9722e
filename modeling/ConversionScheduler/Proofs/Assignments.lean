import ConversionScheduler.Proofs.Conduct
import ConversionScheduler.Proofs.TaskStores
/-!
# Tasks that were taken

Once a worker has taken a task, the task is written with its assignment, and whoever asks for the
task later is referred to that worker. What is written is read as an assignment only if neither of
its two ids is empty. The id that the worker answers with has been checked by then, but nobody has
checked the id under which the worker registered: a task that was taken by the worker with the empty
id is read as one that nobody took.

## Main definitions

* `Task.IsCopy` — a task that differs only in the time of creation and the assignment.
* `Scheduler.hired`, `Scheduler.newTask`, `Scheduler.acceptance`, `Scheduler.completion` — a small
  system, for examples.

## Main results

* `Scheduler.ends_execute` — a task is assigned to a worker under an id that is not empty.
* `Scheduler.ends_schedule` — a task that was taken is written, and nothing comes after that.
* `Scheduler.inquire_asks` — the worker of a task is asked at the address in its record.
* `schedule_remembered_iff` — what is remembered of a task that was taken, and who is asked about
  it.
* `schedule_remembered` — a worker with an id that is not empty.
* `schedule_forgotten` — the worker with the empty id.
-/

namespace ConversionScheduler

open Manager (State)
open Manager.State (query call note count)

/-- Whether a task differs from another one only in the time of creation and the assignment. -/
def Task.IsCopy (t t' : Task) : Prop :=
  t' = { t with createdAt := t'.createdAt, assignment := t'.assignment }

/-- What an assigned task is read as. -/
lemma Task.ofRecord_of_assigned {t : Task} {a : Assignment} (h : t.assignment = some a)
    (now created : Timestamp) :
    ofRecord { t.toRecord now with createdAt := created } = { t with
      createdAt := created
      assignment := if a.workerId ≠ "" ∧ a.remoteId ≠ "" then some a else none } := by
  simp only [ofRecord, toRecord, h, Option.map_some, assignmentOf]

namespace Manager.State

variable {ω α : Type} {s t : State ω} {within : State ω → Prop}

/-- A call of a store that has a result leaves everything but the world. -/
lemma ends_query {q : Query ω α} {a : α} (h : (query q s).Ends within (.ok a) t) :
    ∃ w, q s.world = (.ok a, w) ∧ t = { s with world := w } := by
  rcases hq : q s.world with ⟨r, w⟩
  rw [query_eq hq] at h
  obtain ⟨rfl, rfl⟩ := Act.ends_finished h
  exact ⟨w, rfl, rfl⟩

/-- A result does not come from an error. -/
lemma ok_of_mapError {r : Except Error α} {a : α}
    (h : Except.ok a = r.mapError Failure.reported) : r = .ok a := by
  cases r with
  | error e => exact absurd h (by simp [Except.mapError])
  | ok b => exact congrArg Except.ok (Except.ok.inj h).symm

/-- A call that has a result, in the state in which the answer came, unless there was none. -/
lemma ends_call {c : Proxy → Call α} {n : Nat} {a : α} (h : (call n c s).Ends within (.ok a) t) :
    ∃ body u, (within u ∨ ∃ fault, body = .error fault) ∧
      ((c (s.pool.proxy n)).finish body (u.pool.proxy n)).1 = .ok a ∧ t.world = u.world := by
  unfold call Call.run at h
  cases hrequest : (c (s.pool.proxy n)).request with
  | error fault =>
    rw [hrequest] at h
    obtain ⟨hresult, rfl⟩ := Act.ends_finished h
    exact ⟨.error (.transport fault), s, .inr ⟨_, rfl⟩, ok_of_mapError hresult, rfl⟩
  | ok r =>
    rw [hrequest] at h
    obtain ⟨o, u, hsent, hconcluded⟩ := Operation.ends_bind h
    have hwithin : within u := by
      cases hsent with
      | waiting hwithin hend =>
        obtain ⟨-, rfl⟩ := Act.ends_finished hend
        exact hwithin
    obtain ⟨hresult, rfl⟩ := Act.ends_finished hconcluded
    exact ⟨Proxy.answer r.url o, u, .inl hwithin, ok_of_mapError hresult, rfl⟩

/-- A call with a request waits for its outcome. -/
lemma call_waits {c : Proxy → Call α} {n : Nat} {r : Http.Request}
    (h : (c (s.pool.proxy n)).request = .ok r) : ∃ k, call n c s = .waiting r s k := by
  unfold call Call.run
  rw [h]
  exact ⟨_, rfl⟩

end Manager.State

namespace Scheduler

variable {ω : Type} {c : Scheduler ω} {s s' : State ω} {t f : Task} {within : State ω → Prop}

/-- **A task is assigned to a worker under an id that is not empty**, and the world is as it was
when the worker answered.

**Proof sketch.** The selection, the call and what follows it all have to end well. The call does
only with an acknowledgement whose id is not empty, for a task without an assignment, and after an
answer. -/
theorem ends_execute (h : (c.execute t s).Ends within (.ok f) s') :
    ∃ a u, a.remoteId ≠ "" ∧ f = { t with assignment := some a } ∧ within u ∧
      s'.world = u.world := by
  obtain ⟨choice, s₁, -, h⟩ := Operation.ends_bind h
  cases choice with
  | none => exact absurd (Act.ends_finished h).1 (by simp)
  | some n =>
    obtain ⟨assigned, s₂, hcall, h⟩ := Operation.ends_bind h
    obtain ⟨hf, rfl⟩ := Act.ends_finished h
    obtain rfl := Except.ok.inj hf
    obtain ⟨body, u, hu, hfinish, hworld⟩ := Manager.State.ends_call hcall
    obtain hu | ⟨fault, rfl⟩ := hu
    · obtain ⟨e, hfailed⟩ | ⟨remoteId, hne, -, htaken⟩ :=
        Manager.finish_dispatch (s₁.pool.proxy n) t body (u.pool.proxy n)
      · rw [hfailed] at hfinish
        exact absurd hfinish (by simp)
      · rw [htaken] at hfinish
        exact ⟨_, u, hne, (Except.ok.inj hfinish).symm, hu, hworld⟩
    · exact absurd hfinish (by simp [Proxy.dispatch, Proxy.decoded])

/-- **The worker of a task is asked at the address in its record**, if that is one to which a
request can be sent.

**Proof sketch.** The proxy is resolved by the record just read, so the call through it is the call
to the address in the record, and it waits for its outcome. -/
theorem inquire_asks {id : String} {a : Assignment} {r : WorkerRecord} {w : ω}
    (hget : c.stores.workers.get a.workerId s.world = (.ok r, w)) {request : Http.Request}
    (hrequest : (Proxy.ofRecord r).request .get ["task", a.remoteId] none = .ok request) :
    ∃ u k, c.inquire id t a s = .waiting request u k := by
  obtain ⟨n, pool, hresolve⟩ : ∃ n pool, s.pool.resolve r = (n, pool) := ⟨_, _, rfl⟩
  obtain ⟨u, hu⟩ : ∃ u : State ω, u = { s with world := w, pool := pool } := ⟨_, rfl⟩
  have hworker : c.manager.getWorker a.workerId s = .finished (.ok n) u := by
    show (query (c.stores.workers.get a.workerId) >>= _) s = _
    rw [Manager.State.query_bind_ok hget, Manager.State.resolve, Operation.step]
    simp only [hresolve, hu]
  have haddr : (u.pool.proxy n).addr = r.addr := by
    rw [hu, ← Pool.addr_resolve s.pool r, hresolve]
  have hsame : ((u.pool.proxy n).taskStatus a.remoteId).request = .ok request :=
    (Proxy.request_congr haddr ..).trans hrequest
  obtain ⟨k, hk⟩ := Manager.State.call_waits (c := fun p => p.taskStatus a.remoteId) hsame
  refine ⟨u, ?_⟩
  rw [inquire, Operation.bind_apply, remoteStatus, Operation.bind_apply, hworker]
  show ∃ k, ((call n (fun p => p.taskStatus a.remoteId) u).andThen _).andThen _ = _
  rw [hk]
  exact ⟨_, rfl⟩

/-- Without an assignment, the task is reported as its record has it, and nobody is asked. -/
lemma status_of_unassigned {id : String} {w : ω}
    (hget : c.stores.tasks.get id s.world = (.ok t, w)) (ht : t.assignment = none) :
    c.status id s = .finished (.ok (.ofTask t)) { s with world := w } := by
  rw [status, Manager.State.query_bind_ok hget, ht]
  rfl

/-- With an assignment, the worker is asked. -/
lemma status_of_assigned {id : String} {w : ω} {a : Assignment}
    (hget : c.stores.tasks.get id s.world = (.ok t, w)) (ht : t.assignment = some a) :
    c.status id s = c.inquire id t a { s with world := w } := by
  rw [status, Manager.State.query_bind_ok hget, ht]

/-- **A task that was taken is written**, and nothing comes after that. -/
theorem ends_schedule (h : (c.schedule t s).Ends within (.ok f) s') :
    ∃ a u, a.remoteId ≠ "" ∧ f = { t with assignment := some a } ∧ within u ∧
      c.stores.tasks.update f u.world = (.ok (), s'.world) := by
  obtain ⟨-, s₁, -, h⟩ := Operation.ends_bind h
  obtain ⟨outcome, s₂, hexecute, h⟩ := Operation.ends_bind h
  cases outcome with
  | error e =>
    obtain ⟨-, s₃, -, h⟩ := Operation.ends_bind h
    obtain ⟨-, s₄, -, h⟩ := Operation.ends_bind h
    exact absurd (Act.ends_finished h).1 (by simp)
  | ok assigned =>
    obtain ⟨a, u, hne, hassigned, hu, hworld⟩ := ends_execute (Operation.ends_attempt hexecute)
    obtain ⟨⟨⟩, s₃, hupdate, h⟩ := Operation.ends_bind h
    obtain ⟨w, hw, rfl⟩ := Manager.State.ends_query hupdate
    obtain ⟨hf, rfl⟩ := Act.ends_finished h
    obtain rfl := Except.ok.inj hf
    exact ⟨a, u, hne, hassigned, hu, by rw [← hworld]; exact hw⟩

/-! ## A small system -/

/-- The state once a worker has registered. -/
def hired (id : String) : State Site :=
  ((⟨initial, []⟩ : Configuration (State Site)).start
    (Action.run strict (.register ⟨id, "a:1", 3⟩))).state

/-- A new task. -/
def newTask : Task := .create "t" "convert" "pdf" .low .null .epoch

/-- The answer of a worker that takes a task: `{"task_id":"r"}`. -/
def acceptance : Http.Outcome :=
  .answered 200 [123, 34, 116, 97, 115, 107, 95, 105, 100, 34, 58, 34, 114, 34, 125] true

/-- The answer of a worker that has completed it: `{"task_id":"r","task_status":"DONE"}`. -/
def completion : Http.Outcome :=
  .answered 200 [123, 34, 116, 97, 115, 107, 95, 105, 100, 34, 58, 34, 114, 34, 44, 34, 116, 97,
    115, 107, 95, 115, 116, 97, 116, 117, 115, 34, 58, 34, 68, 79, 78, 69, 34, 125] true

end Scheduler

/-! ## What is remembered -/

/-- **A task that was taken is read as it was assigned unless its worker has the empty id.**
Whatever else happens while the worker is asked to take it, what is read next is the task with its
free-form data and everything else that the client gave it. With the assignment, the worker is asked
about the task at the address in its record; without it, the task is reported as it was before, and
no worker is asked.

**Proof sketch.** A dispatch that succeeds assigns the task to the proxy that was asked, under an id
that is not empty, and the update that follows it is the last thing that is done to the store. -/
theorem schedule_remembered_iff {b : TaskBackend} {c : Scheduler Site}
    (hc : c.stores.tasks = b.store) {t f : Task} (ht : b.Accepts t.userDef) {s s' : State Site}
    (h : (c.schedule t s).Ends (fun u => b.IsUndisturbed u.world) (.ok f) s') :
    ∃ a t' w, a.remoteId ≠ "" ∧ f = { t with assignment := some a } ∧
      c.stores.tasks.get f.id s'.world = (.ok t', w) ∧ f.IsCopy t' ∧
      (t'.assignment = f.assignment ↔ a.workerId ≠ "") ∧
      (a.workerId = "" →
        c.status f.id s' = .finished (.ok (.ofTask t)) { s' with world := w }) ∧
      (a.workerId ≠ "" →
        c.status f.id s' = c.inquire f.id t' a { s' with world := w } ∧
        ∀ r w' request, c.stores.workers.get a.workerId w = (.ok r, w') →
          (Proxy.ofRecord r).request .get ["task", a.remoteId] none = .ok request →
          ∃ u k, c.status f.id s' = .waiting request u k) := by
  obtain ⟨a, u, hne, hf, hu, hupdate⟩ := Scheduler.ends_schedule h
  have hassigned : f.assignment = some a := by rw [hf]
  have hdata : b.Accepts f.userDef := by
    rw [hf]
    exact ht
  rw [hc] at hupdate
  obtain ⟨created, w, hget⟩ := TaskBackend.get_of_update hu hdata hupdate
  obtain ⟨t', ht'⟩ : ∃ t', t' = { f with
      createdAt := created
      assignment := if a.workerId ≠ "" ∧ a.remoteId ≠ "" then some a else none } := ⟨_, rfl⟩
  rw [Task.ofRecord_of_assigned hassigned, ← hc, ← ht'] at hget
  have hread : t'.assignment = if a.workerId = "" then none else some a := by
    rw [ht']
    by_cases hworker : a.workerId = "" <;> simp [hworker, hne]
  refine ⟨a, t', w, hne, hf, hget, ?_, ?_, fun hempty => ?_, fun hworker => ?_⟩
  · rw [ht']
    rfl
  · rw [hread, hassigned]
    split <;> simp_all
  · rw [if_pos hempty] at hread
    rw [Scheduler.status_of_unassigned hget hread, ht', hf]
    rfl
  · rw [if_neg hworker] at hread
    have hstatus := Scheduler.status_of_assigned hget hread
    refine ⟨hstatus, fun r w' request hr hrequest => ?_⟩
    rw [hstatus]
    exact Scheduler.inquire_asks (s := { s' with world := w }) hr hrequest

/-- A task that was taken by a worker with an id is read with this id, and the worker is asked about
it. -/
theorem schedule_remembered :
    let taken := (Scheduler.strict.schedule Scheduler.newTask (Scheduler.hired "w")).run
      fun _ => Scheduler.acceptance
    taken.1 = .ok { Scheduler.newTask with assignment := some ⟨"w", "r"⟩ } ∧
      ∃ t' w, Scheduler.strict.stores.tasks.get "t" taken.2.world = (.ok t', w) ∧
        t'.assignment = some ⟨"w", "r"⟩ ∧
        ((Scheduler.strict.status "t" taken.2).run fun _ => Scheduler.completion).1 =
          .ok ⟨"t", .done, "convert", "pdf", .null⟩ := by
  intro taken
  have htaken : taken.1 = .ok { Scheduler.newTask with assignment := some ⟨"w", "r"⟩ } := by
    decide +kernel
  have hends : (Scheduler.strict.schedule Scheduler.newTask (Scheduler.hired "w")).Ends
      (fun u => TaskBackend.memory.IsUndisturbed u.world) taken.1 taken.2 :=
    Act.ends_run (fun _ => trivial) _ _
  rw [htaken] at hends
  obtain ⟨a, t', w, -, hf, hget, -, hiff, -⟩ :=
    schedule_remembered_iff (b := .memory) rfl trivial hends
  have ha : a = ⟨"w", "r"⟩ := (Option.some.inj (congrArg Task.assignment hf)).symm
  exact ⟨htaken, t', w, hget, hiff.mpr (by rw [ha]; decide), by decide +kernel⟩

/-- A task that was taken by the worker with the empty id is read as one that nobody took. It is
reported as pending, even if the worker would say that it is done. -/
theorem schedule_forgotten :
    let taken := (Scheduler.strict.schedule Scheduler.newTask (Scheduler.hired "")).run
      fun _ => Scheduler.acceptance
    taken.1 = .ok { Scheduler.newTask with assignment := some ⟨"", "r"⟩ } ∧
      (Scheduler.strict.stores.tasks.get "t" taken.2.world).1 = .ok Scheduler.newTask ∧
      ((Scheduler.strict.status "t" taken.2).run fun _ => Scheduler.completion).1 =
        .ok ⟨"t", .pending, "convert", "pdf", .null⟩ := by
  decide +kernel

end ConversionScheduler
