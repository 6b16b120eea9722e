import ConversionScheduler.Proofs.Dispatches
/-!
# What is left of a submission that fails

If no worker takes a task, the client is told why, and nothing that happens to the record of the
task after that changes what it is told. The record is removed again if the scheduler is to do so
and the store lets it; otherwise it stays as it was written. An error that turns a submission down
is never told to a client whose task was taken.

## Main definitions

* `Query.Reports` — the errors of a store: never a crash, and never one that turns a submission
  down.
* `Http.Request.refusal?` — why a worker did not take a task, if it did not.
* `Scheduler.Misses` — why no request was sent.
* `Scheduler.leftover` — what is left of the tasks when a submission has failed.

## Main results

* `Redis.Dialogue.Errs.runOver` — the errors of a dialogue, whatever the line is like.
* `reports_tasks`, `reports_getWorker`, `reports_listWorkers` — the errors of the stores of a
  configuration.
* `Proxy.settle_dispatch_of_refusal` — a refusal is the error of the dispatch.
* `Scheduler.conclude_reported` — what follows a failure does not change it.
* `misses_or_sends`, `settled_of_answer` — the two ways to fail, and what the client is told.
* `schedule_failure` — the error, and what is left.
-/

namespace ConversionScheduler

open Manager (State)
open Manager.State (query call note count)
open Redis (Dialogue Command Reply Connection Block)

/-! ## The errors of stores -/

/-- Whether an error turns no submission down. -/
def Error.IsTechnical (e : Error) : Prop := e.isSubmissionFailure = false

/-- Whether an operation on the world never crashes, and never fails with an error that turns a
submission down. -/
def Query.Reports {ω α : Type} (q : Query ω α) : Prop :=
  ∀ w e, (q w).1 = .error e → ∃ e', e = .reported e' ∧ e'.IsTechnical

namespace Redis.Dialogue

variable {α β σ : Type} {p : Error → Prop} {d : Dialogue α} {c : Connection}

/-- Whether all errors have a property, whatever the replies are. -/
def Errs (p : Error → Prop) : Dialogue α → Prop
  | done r => ∀ e, r = .error e → p e
  | exchange _ k => ∀ r, (k r).Errs p

/-- A result is no error. -/
lemma errs_pure (a : α) : (pure a : Dialogue α).Errs p := fun _ h => absurd h (by simp)

/-- The only error of a failure is the one it gives. -/
lemma errs_done_error {e : Error} (h : p e) : (done (.error e) : Dialogue α).Errs p :=
  fun _ he => Except.error.inj he ▸ h

/-- The errors of two dialogues, one after the other, are those of both. -/
lemma Errs.bind {f : α → Dialogue β} (h : d.Errs p) (hf : ∀ a, (f a).Errs p) :
    (d >>= f).Errs p := by
  induction d with
  | done r =>
    cases r with
    | error e => exact errs_done_error (h e rfl)
    | ok a => exact hf a
  | exchange b k ih => exact fun r => ih r (h r)

/-- An attempt has no errors. -/
lemma errs_attempt (d : Dialogue α) : d.attempt.Errs p := by
  induction d with
  | done r => exact fun _ h => absurd h (by simp)
  | exchange b k ih => exact ih

/-- One exchange fails only because the store cannot be used. -/
lemma errs_ask (hp : ∀ fault, p (.storeUnavailable fault)) (command : Command)
    (read : Reply → Option α) : (c.ask command read).Errs p := by
  intro r
  dsimp only
  split
  · exact errs_done_error (hp _)
  · exact errs_done_error (hp _)
  · split
    · exact errs_pure _
    · exact errs_done_error (hp _)

/-- **The errors of a dialogue have the property on any line.** -/
theorem Errs.runOver (h : d.Errs p) {line : Block → σ → Option Reply × σ} {s : σ} {e : Error}
    (he : (d.runOver line s).1 = .error e) : p e := by
  induction d generalizing s with
  | done r => exact h e he
  | exchange b k ih => exact ih _ (h _) he

end Redis.Dialogue

/-- What is read under the key of a worker's record fails technically. -/
lemma RedisWorkers.errs_record? (text : String) :
    (Dialogue.done (record? text)).Errs Error.IsTechnical := by
  intro e he
  unfold record? at he
  split at he
  · exact absurd he (by simp)
  · exact Except.error.inj he ▸ rfl

namespace RedisWorkers

open Redis.Dialogue

variable (w : RedisWorkers)

/-- Striking ids off never fails. -/
lemma errs_strikeOff (ids : List String) : (w.strikeOff ids).Errs Error.IsTechnical := by
  unfold strikeOff
  split
  · exact errs_pure ()
  · exact (errs_attempt _).bind fun _ => errs_pure ()

/-- A look for a worker fails technically, or because there is none. -/
lemma errs_get (id : String) : (w.get id).Errs Error.IsTechnical := by
  refine (errs_ask (fun _ => rfl) _ _).bind fun text => ?_
  cases text with
  | some text => exact errs_record? text
  | none => exact (errs_strikeOff w [id]).bind fun _ => errs_done_error rfl

/-- A listing fails technically. -/
lemma errs_ids : w.ids.Errs Error.IsTechnical := by
  refine (errs_ask (fun _ => rfl) _ _).bind fun members => ?_
  split
  · exact errs_pure _
  · exact (errs_ask (fun _ => rfl) _ _).bind fun records => (errs_strikeOff w _).bind fun _ =>
      errs_pure _

end RedisWorkers

namespace RedisTasks

open Redis.Dialogue

variable (t : RedisTasks)

/-- Loading the record of a task fails technically. -/
lemma errs_load (id : String) : (t.load id).Errs Error.IsTechnical := by
  refine (errs_ask (fun _ => rfl) _ _).bind fun text => ?_
  cases text with
  | none => exact errs_pure none
  | some text =>
    intro e he
    unfold record? at he
    split at he
    · exact absurd he (by simp [Except.map])
    · exact Except.error.inj he ▸ rfl

/-- Writing the record of a task fails technically. -/
lemma errs_save (r : TaskRecord) : (t.save r).Errs Error.IsTechnical :=
  (errs_ask (fun _ => rfl) _ _).bind fun _ => errs_pure ()

/-- A look for a task fails technically, or because there is none. -/
lemma errs_get (id : String) : (t.get id).Errs Error.IsTechnical := by
  refine (errs_load t id).bind fun r => ?_
  cases r with
  | some r => exact errs_pure _
  | none => exact errs_done_error rfl

/-- An update fails technically, or because there is no task to be updated. -/
lemma errs_update (now : Timestamp) (task : Task) :
    (t.update now task).Errs Error.IsTechnical := by
  refine (errs_load t task.id).bind fun r => ?_
  cases r with
  | some r => exact errs_save t _
  | none => exact errs_done_error rfl

/-- The removal of a task fails technically. -/
lemma errs_remove (id : String) : (t.remove id).Errs Error.IsTechnical :=
  (errs_ask (fun _ => rfl) _ _).bind fun _ => errs_pure ()

end RedisTasks

namespace Site

/-- A dialogue over the line of a site has the errors it has over any line. -/
lemma reports_onLine {α : Type} {d : Timestamp → Dialogue α}
    (h : ∀ now, (d now).Errs Error.IsTechnical) : (onLine d).Reports := by
  intro s e he
  have hrun : ((d s.now).runOver Redis.Line.exchange s.line).1.mapError Failure.reported =
      .error e := he
  cases hresult : ((d s.now).runOver Redis.Line.exchange s.line).1 with
  | ok a =>
    rw [hresult] at hrun
    exact absurd hrun (by simp [Except.mapError])
  | error e' =>
    rw [hresult] at hrun
    exact ⟨e', (Except.error.inj hrun).symm, (h s.now).runOver hresult⟩

/-- A call to the tasks in memory, as one to the site. -/
lemma reports_onTasks {α : Type} {q : Timestamp → Query MemoryTasks α}
    (h : ∀ now, (q now).Reports) : (onTasks q).Reports :=
  fun s e he => h s.now s.tasks e he

/-- A call to the workers in memory, as one to the site. -/
lemma reports_onWorkers {α : Type} {q : Clock → Query MemoryWorkers α}
    (h : ∀ now, (q now).Reports) : (onWorkers q).Reports :=
  fun s e he => h s.clock s.workers e he

end Site

namespace Query

variable {ω α β : Type}

/-- The errors do not depend on what is made of a result. -/
lemma reports_map_iff {q : Query ω α} {f : α → β} : (f <$> q).Reports ↔ q.Reports := by
  have hsame : ∀ w e, ((f <$> q) w).1 = .error e ↔ (q w).1 = .error e := by
    intro w e
    rw [map_apply]
    cases (q w).1 <;> simp [Except.map]
  simp only [Reports, hsame]

end Query

namespace MemoryTasks

/-- Adding a task to memory never fails. -/
lemma reports_add (now : Timestamp) (t : Task) : (add now t).Reports :=
  fun _ _ he => absurd he (by simp [add])

/-- Removing a task from memory never fails. -/
lemma reports_remove (id : String) : (remove id).Reports :=
  fun _ _ he => absurd he (by simp [remove])

/-- A look for a task in memory fails only if there is none. -/
lemma reports_get (id : String) : (get id).Reports := by
  intro ts e he
  unfold get at he
  split at he
  · exact absurd he (by simp)
  · exact ⟨_, (Except.error.inj he).symm, rfl⟩

/-- An update in memory fails only if there is no task to be updated. -/
lemma reports_update (now : Timestamp) (t : Task) : (update now t).Reports := by
  intro ts e he
  unfold update at he
  split at he
  · exact absurd he (by simp)
  · exact ⟨_, (Except.error.inj he).symm, rfl⟩

end MemoryTasks

/-- A look for a worker in memory fails only if there is none. -/
lemma MemoryWorkers.reports_get (now : Clock) (id : String) : (get now id).Reports := by
  intro ws e he
  unfold get at he
  split at he
  · exact absurd he (by simp)
  · exact ⟨_, (Except.error.inj he).symm, rfl⟩

/-- The errors of a store of tasks of either kind. -/
lemma TaskBackend.reports_perform (b : TaskBackend) (call : TaskCall) :
    (call.perform b.store).Reports := by
  cases b with
  | memory =>
    cases call with
    | add t =>
      exact Query.reports_map_iff.mpr
        (Site.reports_onTasks fun now => MemoryTasks.reports_add now t)
    | get id =>
      exact Query.reports_map_iff.mpr (Site.reports_onTasks fun _ => MemoryTasks.reports_get id)
    | update t =>
      exact Query.reports_map_iff.mpr
        (Site.reports_onTasks fun now => MemoryTasks.reports_update now t)
    | remove id =>
      exact Query.reports_map_iff.mpr (Site.reports_onTasks fun _ => MemoryTasks.reports_remove id)
  | redis r =>
    cases call with
    | add t => exact Query.reports_map_iff.mpr (Site.reports_onLine fun _ => r.errs_save _)
    | get id => exact Query.reports_map_iff.mpr (Site.reports_onLine fun _ => r.errs_get id)
    | update t =>
      exact Query.reports_map_iff.mpr (Site.reports_onLine fun now => r.errs_update now t)
    | remove id => exact Query.reports_map_iff.mpr (Site.reports_onLine fun _ => r.errs_remove id)

/-- The errors of a store of workers of either kind when it is read. -/
lemma WorkerBackend.reports_get (b : WorkerBackend) (id : String) : (b.store.get id).Reports := by
  cases b with
  | memory ttl => exact Site.reports_onWorkers fun now => MemoryWorkers.reports_get now id
  | redis w => exact Site.reports_onLine fun _ => RedisWorkers.errs_get w id

/-- The errors of a store of workers of either kind when it is listed. -/
lemma WorkerBackend.reports_ids (b : WorkerBackend) : b.store.ids.Reports := by
  cases b with
  | memory ttl =>
    exact Site.reports_onWorkers fun now _ _ he => absurd he (by simp [MemoryWorkers.ids])
  | redis w => exact Site.reports_onLine fun _ => RedisWorkers.errs_ids w

/-! ### Stores that fail -/

/-- The error of a rule is that the store cannot be used, or that something was not found. -/
lemma FaultRule.isTechnical_of_apply {m : StoreMethod} {id : String} {rules : List FaultRule}
    {e : Error} (h : (apply m id rules).1 = some e) : e.IsTechnical := by
  induction rules with
  | nil => exact absurd h (by simp [apply])
  | cons r rest ih =>
    simp only [apply] at h
    split at h
    · exact ih h
    split at h
    · exact ih h
    split at h
    · exact ih h
    · obtain rfl := Option.some.inj h
      cases r.kind <;> rfl

namespace Faulty

variable {ω α : Type}

/-- Rules add technical errors only. -/
lemma reports_guarded {q : Query ω α} (h : q.Reports) (m : StoreMethod) (id : String) :
    (guarded m id q).Reports := by
  intro w e he
  unfold guarded at he
  rcases hrule : FaultRule.apply m id w.rules with ⟨_ | e', rules⟩
  · rw [hrule] at he
    exact h w.base e he
  · rw [hrule] at he
    exact ⟨e', (Except.error.inj he).symm,
      FaultRule.isTechnical_of_apply (by rw [hrule])⟩

end Faulty

section Stores

variable {config : Config} {c : Scheduler (Faulty Site)}
  (hc : c.stores = (Site.stores config).withFaults)

include hc

/-- **The errors of the store of tasks** turn no submission down, and no call crashes. -/
theorem reports_tasks (call : TaskCall) : (call.perform c.stores.tasks).Reports := by
  have hbase : ∀ call : TaskCall, (call.perform (Site.stores config).tasks).Reports := by
    intro call
    rw [Site.tasks_stores]
    exact config.tasks.reports_perform call
  rw [hc]
  cases call with
  | add t =>
    exact Query.reports_map_iff.mpr
      (Faulty.reports_guarded (Query.reports_map_iff.mp (hbase (.add t))) _ _)
  | get id =>
    exact Query.reports_map_iff.mpr
      (Faulty.reports_guarded (Query.reports_map_iff.mp (hbase (.get id))) _ _)
  | update t =>
    exact Query.reports_map_iff.mpr
      (Faulty.reports_guarded (Query.reports_map_iff.mp (hbase (.update t))) _ _)
  | remove id =>
    exact Query.reports_map_iff.mpr
      (Faulty.reports_guarded (Query.reports_map_iff.mp (hbase (.remove id))) _ _)

/-- **The errors of the store of workers when it is read**, likewise. -/
theorem reports_getWorker (id : String) : (c.stores.workers.get id).Reports := by
  rw [hc]
  refine Faulty.reports_guarded ?_ _ _
  rw [Site.workers_stores]
  exact config.registry.reports_get id

/-- **The errors of the store of workers when it is listed**, likewise. Ids that are listed in
addition cause none. -/
theorem reports_listWorkers : c.stores.workers.ids.Reports := by
  have hbase : (Site.stores config).workers.ids.Reports := by
    rw [Site.workers_stores]
    exact config.registry.reports_ids
  intro w e he
  have hguarded := Faulty.reports_guarded hbase .listWorkers ""
  rw [hc] at he
  rcases hrun : Faulty.guarded .listWorkers "" (Site.stores config).workers.ids w with
    ⟨e' | ids, w'⟩
  · have hsame := (Stores.ids_withFaults (Site.stores config) w).2 e' (by rw [hrun])
    obtain rfl := Except.error.inj (hsame.symm.trans he)
    exact hguarded w e' (by rw [hrun])
  · simp only [Stores.withFaults, hrun] at he
    exact absurd he (by simp)

end Stores

/-! ## Why no worker takes a task -/

namespace Manager

variable {ω : Type} {m : Manager ω} {s u : State ω} {e : Failure}

/-- Looking for a record fails only as the reading of it does. -/
lemma find?_eq_error {id : String} (h : m.find? id s = .finished (.error e) u) :
    (m.workers.get id s.world).1 = .error e := by
  rw [find?, Operation.bind_apply, Operation.attempt] at h
  rcases hget : m.workers.get id s.world with ⟨(e' | ⟨⟩) | r, w⟩
  · rw [State.query_eq hget] at h
    cases e' with
    | workerNotFound id' => exact absurd (Act.finished.inj h).1 (by simp)
    | _ =>
      have he := (Act.finished.inj h).1
      exact congrArg Except.error (Except.error.inj he)
  · rw [State.query_eq hget] at h
    have he := (Act.finished.inj h).1
    exact congrArg Except.error (Except.error.inj he)
  · rw [State.query_eq hget] at h
    exact absurd (Act.finished.inj h).1 (by simp)

/-- A choice among some ids fails only as the reading of one of their records does.

**Proof sketch.** Induction on the rounds. A record that is there ends the selection with a proxy,
one that is not there leaves the failure to a later round, and one that cannot be read is the lookup
that the statement asks for. -/
lemma selectFrom_eq_error {rounds : Nat} {ids : List String}
    (h : m.selectFrom rounds ids s = .finished (.error e) u) :
    ∃ id w, (m.workers.get id w).1 = .error e := by
  induction rounds generalizing ids s with
  | zero => exact absurd (Act.finished.inj h).1 (by simp)
  | succ rounds ih =>
    rw [selectFrom, Operation.bind_apply] at h
    rcases hselect : s.balancer.select ids with ⟨choice, balancer⟩
    simp only [Operation.step, hselect, Act.andThen] at h
    cases choice with
    | none => exact absurd (Act.finished.inj h).1 (by simp)
    | some id =>
      change (m.find? id >>= _) _ = _ at h
      rw [Operation.bind_apply] at h
      obtain ⟨r, w, hread, hfind⟩ | ⟨e₀, w, hread, hfind | ⟨e', hfind⟩⟩ :=
        find?_cases m id { s with balancer := balancer }
      · rw [hfind] at h
        exact absurd (Act.finished.inj h).1 (by simp)
      · rw [hfind] at h
        exact ih h
      · have hsame := find?_eq_error hfind
        rw [hfind] at h
        obtain rfl := Except.error.inj (Act.finished.inj h).1
        exact ⟨id, s.world, hsame⟩

/-- **A selection fails only as the store of the workers does** when it is read. -/
theorem selectWorker_eq_error (h : m.selectWorker s = .finished (.error e) u) :
    (m.workers.ids s.world).1 = .error e ∨ ∃ id w, (m.workers.get id w).1 = .error e := by
  change (query m.workers.ids >>= _) s = _ at h
  rcases hids : m.workers.ids s.world with ⟨e' | ids, w⟩
  · rw [State.query_bind_error hids] at h
    obtain rfl := Except.error.inj (Act.finished.inj h).1
    exact .inl rfl
  · rw [State.query_bind_ok hids] at h
    exact .inr (selectFrom_eq_error h)

end Manager

/-- Why a worker did not take a task, if it did not. -/
def Http.Request.refusal? (r : Http.Request) : Http.Outcome → Option CallFault
  | .unanswered => some (.transport (.unanswered r.url.text))
  | .answered _ _ false => some (.transport .cutShort)
  | .answered status body true =>
    if status ≠ 200 then some (.rejected status (Utf8.lossy body))
    else
      match Json.decodeOctets? Proxy.acknowledgement? body with
      | none => some (.malformed (.undecodable "undecodable JSON"))
      | some remoteId => if remoteId = "" then some (.malformed .missingTaskId) else none

/-- A refusal is the error of the dispatch.

**Proof sketch.** Cases on the outcome in the order in which it is refused: no answer, a broken one,
a status other than 200, a text that is no acknowledgement, an empty id. In each the call settles
with the fault that is the reason. -/
lemma Proxy.settle_dispatch_of_refusal {p q : Proxy} {t : Task} {r : Http.Request}
    {o : Http.Outcome} {fault : CallFault} (h : r.refusal? o = some fault) :
    ((p.dispatch t).settle r o q).1 = .error (.dispatchFailure ⟨p.id, fault⟩) := by
  unfold Call.settle
  simp only [dispatch]
  cases o with
  | unanswered =>
    obtain rfl := Option.some.inj h
    rfl
  | answered status body complete =>
    cases complete with
    | false =>
      obtain rfl := Option.some.inj h
      rfl
    | true =>
      rw [Http.Request.refusal?] at h
      split at h
      · rename_i hstatus
        obtain rfl := Option.some.inj h
        simp [answer, hstatus, decoded]
      · rename_i hstatus
        simp only [answer, Bool.not_true, Bool.false_eq_true, if_false,
          if_pos (Classical.not_not.mp hstatus), decoded]
        split at h
        · rename_i hbody
          obtain rfl := Option.some.inj h
          simp [hbody]
        · rename_i remoteId hbody
          split at h
          · rename_i hempty
            obtain rfl := Option.some.inj h
            simp [hbody, hempty]
          · exact absurd h (by simp)

/-- There is a reason unless the worker has taken the task.

**Proof sketch.** From left to right the branches of `refusal?` are passed one after the other, and
what is left is a complete answer of 200 whose acknowledgement has an id; that answer passes all of
them. -/
lemma Http.Request.refusal?_eq_none_iff {r : Http.Request} {o : Http.Outcome} :
    r.refusal? o = none ↔ r.IsTaken o := by
  unfold IsTaken
  simp only [taken?_eq_ok_iff]
  constructor
  · intro h
    cases o with
    | unanswered => exact absurd h (by simp [refusal?])
    | answered status body complete =>
      cases complete with
      | false => exact absurd h (by simp [refusal?])
      | true =>
        rw [refusal?] at h
        split at h
        · exact absurd h (by simp)
        · rename_i hstatus
          split at h
          · exact absurd h (by simp)
          · rename_i remoteId hbody
            split at h
            · exact absurd h (by simp)
            · rename_i hne
              exact ⟨remoteId, hne, body, by rw [Classical.not_not.mp hstatus], hbody⟩
  · rintro ⟨remoteId, hne, body, rfl, hbody⟩
    simp [refusal?, hbody, hne]

/-! ## What follows a failure -/

namespace Scheduler

/-- Why no request was sent, in the state in which this is known. -/
inductive Misses (c : Scheduler (Faulty Site)) (b : WorkerBackend) (t : Task)
    (s : State (Faulty Site)) : Error → State (Faulty Site) → Prop
  /-- The store of the workers failed. -/
  | unselected {e : Error} {u : State (Faulty Site)}
    (selected : c.manager.selectWorker s = .finished (.error (.reported e)) u)
    (failed : (c.stores.workers.ids s.world).1 = .error (.reported e) ∨
      ∃ id w, (c.stores.workers.get id w).1 = .error (.reported e)) : Misses c b t s e u
  | unmanned {u : State (Faulty Site)}
    (selected : c.manager.selectWorker s = .finished (.ok none) u) :
    Misses c b t s .noWorkerAvailable u
  /-- No request can be sent to the address in the record of the worker. -/
  | unsent {r : WorkerRecord} {n : Nat} {u : State (Faulty Site)} {fault : TransportFault}
    (selects : c.manager.Selects b s r n u)
    (request : (Proxy.ofRecord r).request .post ["task"] (some (Proxy.dispatchBody t)) =
      .error fault) : Misses c b t s (.dispatchFailure ⟨r.id, .transport fault⟩) u

variable {ω : Type}

/-- What is left of the tasks when a submission has failed in the world `w`: nothing under its id,
if the record is to be removed and the store lets it. -/
def leftover (c : Scheduler ω) (id : String) (w : ω) (m : TaskContents) : TaskContents :=
  if c.rollback then
    match (c.stores.tasks.remove id w).1 with
    | .ok () => Function.update m id none
    | .error _ => m
  else m

variable {c : Scheduler ω} {s : State ω} {id : String} {w : ω} {m : TaskContents}

/-- A record that is to be removed, and is, leaves nothing. -/
lemma leftover_of_removed (hasked : c.rollback = true)
    (hremoved : (c.stores.tasks.remove id w).1 = .ok ()) :
    c.leftover id w m = Function.update m id none := by
  rw [leftover, if_pos hasked, hremoved]

/-- A record stays if it is not to be removed, or if it cannot be. -/
lemma leftover_of_kept
    (h : c.rollback = false ∨ ∃ e, (c.stores.tasks.remove id w).1 = .error e) :
    c.leftover id w m = m := by
  unfold leftover
  split
  · rename_i hasked
    obtain hnot | ⟨e, he⟩ := h
    · exact absurd (hasked.symm.trans hnot) (by simp)
    · rw [he]
  · rfl

/-- A record that was not there before the submission is gone again once it is removed. -/
lemma leftover_of_fresh {e : Option TaskEntry} (hfresh : m id = none) (hasked : c.rollback = true)
    (hremoved : (c.stores.tasks.remove id w).1 = .ok ()) :
    c.leftover id w (Function.update m id e) = m := by
  rw [leftover_of_removed hasked hremoved, Function.update_idem]
  exact Function.update_eq_self_iff.mpr hfresh.symm

/-- The other tasks stay whatever happens. -/
lemma leftover_of_ne {id' : String} (h : id' ≠ id) : c.leftover id w m id' = m id' := by
  unfold leftover
  split
  · rcases (c.stores.tasks.remove id w).1 with e | ⟨⟩
    · rfl
    · exact Function.update_of_ne h _ _
  · rfl

/-- **What follows a failure does not change it.** The record of the task is removed if that is to
be done, whether it works or not.

**Proof sketch.** The failure is counted. Without rollback that is all; with it the store is asked
to remove the record, and whatever it answers is dropped, since it never crashes. -/
lemma conclude_reported (hremove : ∀ id, (c.stores.tasks.remove id).Reports) (t : Task) (e : Error)
    (s : State ω) :
    ∃ u, c.conclude t (.error (.reported e)) s = .finished (.error (.reported e)) u ∧
      u.world = if c.rollback then (c.stores.tasks.remove t.id s.world).2 else s.world := by
  obtain ⟨u, hu⟩ : ∃ u : State ω, u = { s with
    metrics := { s.metrics with dispatchFailures := s.metrics.dispatchFailures + 1 } } := ⟨_, rfl⟩
  have hworld : u.world = s.world := by rw [hu]
  have hrun : c.conclude t (.error (.reported e)) s =
      (c.rollBack t.id >>= fun _ => Operation.fail e) u := by
    rw [hu]
    rfl
  rw [hrun, Operation.bind_apply, ← hworld]
  unfold rollBack
  cases c.rollback with
  | false => exact ⟨u, rfl, rfl⟩
  | true =>
    show ∃ v, (((query (c.stores.tasks.remove t.id)).attempt >>= _) u).andThen _ = _ ∧ _
    rw [Operation.bind_apply, Operation.attempt]
    rcases hquery : c.stores.tasks.remove t.id u.world with ⟨e' | ⟨⟩, w⟩
    · obtain ⟨e'', rfl, -⟩ := hremove t.id u.world e' (by rw [hquery])
      rw [Manager.State.query_eq hquery]
      exact ⟨_, rfl, rfl⟩
    · rw [Manager.State.query_eq hquery]
      exact ⟨_, rfl, rfl⟩

variable {v : TaskView ω}

/-- What is left once a failure has been dealt with. -/
lemma contents?_of_conclude (hk : c.stores.KeepTasks v) (hs : v.IsSound w)
    (hm : v.contents? w = some m) :
    v.contents? (if c.rollback then (c.stores.tasks.remove id w).2 else w) =
      some (c.leftover id w m) := by
  unfold leftover
  cases c.rollback with
  | false => exact hm
  | true =>
    rw [if_pos rfl, if_pos rfl]
    rcases hremove : c.stores.tasks.remove id w with ⟨a, w'⟩
    obtain ⟨-, ⟨⟨e, rfl⟩, hsame⟩ | ⟨m', hm', rfl, hremoved⟩⟩ := hk.remove hs hremove
    · exact hsame.trans hm
    · obtain rfl := Option.some.inj (hm.symm.trans hm')
      exact hremoved

end Scheduler

section Faults

variable {config : Config} {c : Scheduler (Faulty Site)} {s : State (Faulty Site)} {t : Task}

/-- What is left once a failure has been dealt with, and what the client is told. -/
lemma concluded_of_failure (hc : c.stores = (Site.stores config).withFaults) (t : Task) (e : Error)
    (hs : config.tasks.IsUndisturbed s.world.base) :
    ∃ s', c.conclude t (.error (.reported e)) s = .finished (.error (.reported e)) s' ∧
      ∀ m, config.tasks.contents? s.world.base = some m →
        config.tasks.contents? s'.world.base = some (c.leftover t.id s.world m) := by
  have hremove : ∀ id, (c.stores.tasks.remove id).Reports := fun id =>
    Query.reports_map_iff.mp (reports_tasks hc (.remove id))
  obtain ⟨s', hconclude, hs'⟩ := Scheduler.conclude_reported hremove t e s
  refine ⟨s', hconclude, fun m hm => ?_⟩
  rw [hs']
  exact Scheduler.contents?_of_conclude (keepTasks_of_stores hc) hs hm

/-- A task that cannot be written is not submitted, and the client is told why. -/
lemma refused_of_unwritten (hc : c.stores = (Site.stores config).withFaults)
    (hs : config.tasks.IsUndisturbed s.world.base) {e : Failure}
    (hadd : (c.stores.tasks.add t s.world).1 = .error e) :
    ∃ e', e = .reported e' ∧ e'.isSubmissionFailure = false ∧
      c.schedule t s = .finished (.error (.reported e'))
        { s with world := (c.stores.tasks.add t s.world).2 } ∧
      config.tasks.contents? (c.stores.tasks.add t s.world).2.base =
        config.tasks.contents? s.world.base := by
  obtain ⟨e', rfl, htechnical⟩ :=
    Query.reports_map_iff.mp (reports_tasks hc (.add t)) s.world e hadd
  refine ⟨e', rfl, htechnical, ?_, ?_⟩
  · rw [Scheduler.schedule, Manager.State.query_bind_error (Prod.ext hadd rfl)]
  · obtain ⟨-, ⟨-, hsame⟩ | ⟨-, -, hok, -⟩⟩ :=
      (keepTasks_of_stores hc).add hs (Prod.ext hadd rfl)
    · exact hsame
    · exact absurd hok (by simp)

/-- A selection that fails does so because the store of the workers does. -/
lemma reported_of_unselected (hc : c.stores = (Site.stores config).withFaults) {e : Failure}
    {u : State (Faulty Site)} (h : c.manager.selectWorker s = .finished (.error e) u) :
    ∃ e', e = .reported e' ∧ ((c.stores.workers.ids s.world).1 = .error (.reported e') ∨
      ∃ id w, (c.stores.workers.get id w).1 = .error (.reported e')) := by
  obtain hids | ⟨id, w, hget⟩ := Manager.selectWorker_eq_error h
  · obtain ⟨e', rfl, -⟩ := reports_listWorkers hc _ _ hids
    exact ⟨e', rfl, .inl hids⟩
  · obtain ⟨e', rfl, -⟩ := reports_getWorker hc id _ _ hget
    exact ⟨e', rfl, .inr ⟨id, w, hget⟩⟩

/-- The search for a worker fails for one of the reasons that there are, or a request is sent to the
worker that was selected.

**Proof sketch.** Cases on how the execution runs. A worker that cannot be selected, none at all,
and a request that cannot be written are the reasons there are; in the last two cases of a selection
the proxy has the id and the address of the record that was read. -/
lemma misses_or_sends (hc : c.stores = (Site.stores config).withFaults)
    (hw : config.registry.IsSound s.world.base) (hpool : s.pool.IsKeyed) (t : Task) :
    (∃ e choice u v, c.manager.selectWorker s = .finished choice u ∧ v.world = u.world ∧
        c.execute t s = .finished (.error (.reported e)) v ∧ c.Misses config.registry t s e u) ∨
      ∃ r n u request resume, c.manager.Selects config.registry s r n u ∧
        c.execute t s = .waiting request u resume ∧
        ∀ o u', ∃ v : State (Faulty Site), v.world = u'.world ∧ resume o u' = .finished
          ((((u.pool.proxy n).dispatch t).settle request o (u'.pool.proxy n)).1.mapError
            .reported) v := by
  have hexecutes := c.executes_execute t s
  generalize c.execute t s = act at hexecutes ⊢
  cases hexecutes with
  | @unselected e u selected =>
    obtain ⟨e, rfl, hfailed⟩ := reported_of_unselected hc selected
    exact .inl ⟨e, _, u, u, selected, rfl, rfl, .unselected selected hfailed⟩
  | @unmanned u selected => exact .inl ⟨_, _, u, u, selected, rfl, rfl, .unmanned selected⟩
  | @unsent n u v fault selected requested same =>
    obtain ⟨r, hselects⟩ := selects_of_finished hc hw hpool selected
    have hid : (u.pool.proxy n).id = r.id := congrArg Contact.id hselects.contact
    have haddr : (u.pool.proxy n).addr = r.addr := congrArg Contact.addr hselects.contact
    have hrequest : (Proxy.ofRecord r).request .post ["task"] (some (Proxy.dispatchBody t)) =
        .error fault :=
      (Proxy.request_congr haddr.symm ..).trans requested
    rw [hid]
    exact .inl ⟨_, _, u, v, selected, same, rfl, .unsent hselects hrequest⟩
  | @sent n u request resume selected requested settles =>
    obtain ⟨r, hselects⟩ := selects_of_finished hc hw hpool selected
    exact .inr ⟨r, n, u, request, resume, hselects, rfl, settles⟩

/-- What a submission comes to once the answer of the worker is there: what the client is told, and
what is left if the worker has not taken the task.

**Proof sketch.** If the answer is refused, its reason is the error of the dispatch, which
`concluded_of_failure` carries to the end. If not, the task was taken, so what can still fail is the
writing of its assignment, and an error of the store is no failure of the submission. -/
lemma settled_of_answer (hc : c.stores = (Site.stores config).withFaults)
    (ht : t.assignment = none) (p q : Proxy) (request : Http.Request) (o : Http.Outcome)
    (hs : config.tasks.IsUndisturbed s.world.base) :
    ∃ result s',
      c.conclude t (((p.dispatch t).settle request o q).1.mapError .reported) s =
        .finished result s' ∧
      (∀ fault, request.refusal? o = some fault →
        result = .error (.reported (.dispatchFailure ⟨p.id, fault⟩)) ∧
        ∀ m', config.tasks.contents? s.world.base = some m' →
          config.tasks.contents? s'.world.base = some (c.leftover t.id s.world m')) ∧
      ∀ failure, result = .error failure → ∃ e, failure = .reported e ∧
        (e.isSubmissionFailure = true → ¬ ∃ body remoteId, o = .answered 200 body true ∧
          Json.decodeOctets? Proxy.acknowledgement? body = some remoteId ∧ remoteId ≠ "") := by
  cases hrefusal : request.refusal? o with
  | some fault =>
    obtain ⟨s', hconclude, hleft⟩ := concluded_of_failure hc t (.dispatchFailure ⟨p.id, fault⟩) hs
    rw [Proxy.settle_dispatch_of_refusal hrefusal]
    refine ⟨_, s', hconclude, fun fault' hfault' => ?_, fun failure hfailure => ?_⟩
    · obtain rfl := Option.some.inj hfault'
      exact ⟨rfl, hleft⟩
    · refine ⟨_, (Except.error.inj hfailure).symm, fun _ htaken => ?_⟩
      obtain ⟨body, remoteId, ho, hbody, hne⟩ := htaken
      have hnone := Http.Request.refusal?_eq_none_iff (r := request).mpr
        ⟨remoteId, hne, Http.Request.taken?_eq_ok_iff.mpr ⟨body, ho, hbody⟩⟩
      exact absurd (hrefusal.symm.trans hnone) (by simp)
  | none =>
    obtain ⟨remoteId, hne, htaken⟩ := Http.Request.refusal?_eq_none_iff.mp hrefusal
    obtain ⟨result, s', hconclude, -, herror⟩ := c.conclude_ok t
      { t with assignment := some ⟨p.id, remoteId⟩ } s
    rw [(Proxy.settle_dispatch_eq_ok_iff ht).mpr ⟨remoteId, htaken, hne, rfl⟩]
    refine ⟨result, s', hconclude, fun fault hfault => absurd hfault (by simp),
      fun failure hfailure => ?_⟩
    obtain ⟨e, rfl, htechnical⟩ :=
      Query.reports_map_iff.mp (reports_tasks hc (.update _)) s.world _ (herror failure hfailure)
    exact ⟨e, rfl, fun h => absurd (htechnical.symm.trans h) (by simp)⟩

/-- **What is left of a submission that fails, and what the client is told.** The id of the task is
a new one, and the task has no assignment.

If the task cannot be written, the client is told so, and nothing has changed. If no worker can be
asked, because the store of the workers fails, because there is none, or because no request can be
sent to the one that was selected, the client is told why. If a worker was asked and did not take
the task, since it did not answer, its answer broke off, its status was not 200, or its body was no
acknowledgement or one without an id, the client is told that. In all of these cases the error is
the same whether the record of the task is removed afterwards or not, and whether that works.

The record is removed if that is asked for and works, and then the store is as it was before;
otherwise it holds the record of the task, as the client gave it, and all the others. While the
request is on its way others may change the tasks; then what is left is what they left, without the
record if it was removed.

If the worker took the task, the client may still be told that the assignment could not be written,
but never with an error that turns the submission down.

**Proof sketch.** The stores never crash on the way, so a failed removal is passed over; and none of
their errors is one that turns a submission down. -/
theorem schedule_failure (hc : c.stores = (Site.stores config).withFaults)
    (hs : config.tasks.IsUndisturbed s.world.base) (hw : config.registry.IsSound s.world.base)
    (hpool : s.pool.IsKeyed) (ht : t.assignment = none) {m : TaskContents}
    (hm : config.tasks.contents? s.world.base = some m) (hfresh : m t.id = none) :
    let s₁ : State (Faulty Site) := { s with world := (c.stores.tasks.add t s.world).2 }
    let written := Function.update m t.id
      (some (config.tasks.entry (t.toRecord (c.stores.now s.world))))
    ((∃ e s', c.schedule t s = .finished (.error (.reported e)) s' ∧
        (c.stores.tasks.add t s.world).1 = .error (.reported e) ∧ e.isSubmissionFailure = false ∧
        config.tasks.contents? s'.world.base = some m) ∨
      (∃ e u s', c.schedule t s = .finished (.error (.reported e)) s' ∧
        c.Misses config.registry t s₁ e u ∧
        config.tasks.contents? s'.world.base = some (c.leftover t.id u.world written)) ∨
      ∃ r n u request resume, c.manager.Selects config.registry s₁ r n u ∧
        c.schedule t s = .waiting request u resume ∧
        config.tasks.contents? u.world.base = some written ∧
        ∀ o u', config.tasks.IsUndisturbed u'.world.base →
          ∃ result s', resume o u' = .finished result s' ∧
            (∀ fault, request.refusal? o = some fault →
              result = .error (.reported (.dispatchFailure ⟨r.id, fault⟩)) ∧
              ∀ m', config.tasks.contents? u'.world.base = some m' →
                config.tasks.contents? s'.world.base = some (c.leftover t.id u'.world m')) ∧
            ∀ failure, result = .error failure → ∃ e, failure = .reported e ∧
              (e.isSubmissionFailure = true → ¬ ∃ body remoteId, o = .answered 200 body true ∧
                Json.decodeOctets? Proxy.acknowledgement? body = some remoteId ∧
                remoteId ≠ "")) ∧
    ∀ w, (c.rollback = true → (c.stores.tasks.remove t.id w).1 = .ok () →
        c.leftover t.id w written = m) ∧
      (c.rollback = false ∨ (∃ e, (c.stores.tasks.remove t.id w).1 = .error e) →
        c.leftover t.id w written = written) ∧
      ∀ m' id, id ≠ t.id → c.leftover t.id w m' id = m' id := by
  intro s₁ written
  refine ⟨?_, fun w => ⟨Scheduler.leftover_of_fresh hfresh, Scheduler.leftover_of_kept,
    fun m' id => Scheduler.leftover_of_ne⟩⟩
  rcases hadd : (c.stores.tasks.add t s.world).1 with e | ⟨⟩
  · obtain ⟨e', rfl, htechnical, hrun, hsame⟩ := refused_of_unwritten hc hs hadd
    exact .inl ⟨e', _, hrun, rfl, htechnical, hsame.trans hm⟩
  right
  have hwritten : ∀ {choice : Except Failure (Option Nat)} {u : State (Faulty Site)},
      c.manager.selectWorker s₁ = .finished choice u →
        config.tasks.IsUndisturbed u.world.base ∧
          config.tasks.contents? u.world.base = some written := by
    intro choice u selected
    obtain ⟨hu, m₀, hm₀, hu'⟩ := written_of_selected hc hs hadd selected
    obtain rfl := Option.some.inj (hm.symm.trans hm₀)
    exact ⟨hu, hu'⟩
  rw [Scheduler.schedule_of_written hadd]
  obtain ⟨e, choice, u, v, selected, same, hexecute, hmisses⟩ |
    ⟨r, n, u, request, resume, hselects, hexecute, settles⟩ :=
      misses_or_sends (s := s₁) hc (isSound_add hc hw t) hpool t
  · obtain ⟨hu, hheld⟩ := hwritten selected
    rw [← same] at hu hheld
    obtain ⟨s', hconclude, hleft⟩ := concluded_of_failure hc t e hu
    rw [hexecute]
    refine .inl ⟨e, u, s', hconclude, hmisses, ?_⟩
    rw [← same]
    exact hleft _ hheld
  · have hid : (u.pool.proxy n).id = r.id := congrArg Contact.id hselects.contact
    rw [hexecute]
    refine .inr ⟨r, n, u, request, _, hselects, rfl, (hwritten hselects.selected).2,
      fun o u' hu' => ?_⟩
    obtain ⟨v, hworld, hresume⟩ := settles o u'
    rw [← hworld] at hu' ⊢
    show ∃ result s', (resume o u').andThen (fun r u => c.conclude t r u) = _ ∧ _
    rw [hresume, ← hid]
    exact settled_of_answer hc ht (u.pool.proxy n) (u'.pool.proxy n) request o hu'

/-- A worker that does not answer has not taken the task, and the record of the task is removed
again if that is asked for. -/
theorem schedule_failure_unanswered :
    TaskBackend.memory.IsUndisturbed Scheduler.staffed.world.base ∧
      (Config.registry {}).IsSound Scheduler.staffed.world.base ∧
      Scheduler.staffed.pool.IsKeyed ∧ Scheduler.newTask.assignment = none ∧
      MemoryTasks.contents Scheduler.staffed.world.base.tasks "t" = none ∧
      ∃ request u resume,
        (Scheduler.basic true).schedule Scheduler.newTask Scheduler.staffed =
          .waiting request u resume ∧
        ∃ s', resume .unanswered u = .finished (.error (.reported (.dispatchFailure
            ⟨"w", .transport (.unanswered "http://a:1/task")⟩))) s' ∧
          MemoryTasks.contents s'.world.base.tasks =
            (Scheduler.basic true).leftover "t" u.world
              (MemoryTasks.contents u.world.base.tasks) ∧
          MemoryTasks.contents s'.world.base.tasks "t" = none := by
  have hfresh : MemoryTasks.contents Scheduler.staffed.world.base.tasks "t" = none := by
    decide +kernel
  refine ⟨trivial, Scheduler.isSound_staffed, Scheduler.isKeyed_staffed, rfl, hfresh, ?_⟩
  have herror : (((Scheduler.basic true).schedule Scheduler.newTask Scheduler.staffed).run
      fun _ => .unanswered).1 = .error (.reported (.dispatchFailure
        ⟨"w", .transport (.unanswered "http://a:1/task")⟩)) := by
    decide +kernel
  have hgone : MemoryTasks.contents (((Scheduler.basic true).schedule Scheduler.newTask
      Scheduler.staffed).run fun _ => .unanswered).2.world.base.tasks "t" = none := by
    decide +kernel
  have hsent : ((Scheduler.basic true).schedule Scheduler.newTask
      Scheduler.staffed).request?.isSome = true := by
    decide +kernel
  obtain ⟨⟨e, s', hrun, -⟩ | ⟨e, u, s', hrun, -⟩ | ⟨r, n, u, request, resume, -, hrun, -, hends⟩,
      -⟩ := schedule_failure (c := .basic true)
        (show (Scheduler.basic true).stores = (Site.stores {}).withFaults from rfl) trivial
        Scheduler.isSound_staffed Scheduler.isKeyed_staffed
        (show Scheduler.newTask.assignment = none from rfl) rfl hfresh
  · rw [hrun] at hsent
    exact absurd hsent (by simp [Act.request?])
  · rw [hrun] at hsent
    exact absurd hsent (by simp [Act.request?])
  · obtain ⟨result, s', hresume, hrefused, -⟩ := hends .unanswered u trivial
    rw [hrun, Act.run, hresume] at herror hgone
    obtain ⟨-, hleft⟩ := hrefused _ rfl
    have hresult : result = .error (.reported (.dispatchFailure
      ⟨"w", .transport (.unanswered "http://a:1/task")⟩)) := herror
    rw [hresult] at hresume
    exact ⟨request, u, resume, hrun, s', hresume, Option.some.inj (hleft _ rfl), hgone⟩

end Faults

end ConversionScheduler
