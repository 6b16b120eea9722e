import ConversionScheduler.Proofs.FailedDispatches
import ConversionScheduler.Proofs.TaskStages
import ConversionScheduler.Proofs.Transcripts
/-!
# What is counted

A scheduler counts the tasks that workers took, the submissions for which none did, the workers it
evicted and the health checks that failed. Here it is told what each operation counts by itself,
from its start to each of its pauses and to its end, whatever the others do in the meantime.

A sweep counts what it reports, and the health checks to which it was not told what it asked for. A
submission counts once it knows whether a worker has taken the task. But if one has, it has to write
the assignment first, and if that cannot be done, it counts nothing.

## Main definitions

* `Tally`, `Manager.State.tally` — what there is to be counted, and how much of it a state shows.
* `Http.Request.status?` — what a worker says about itself.
* `Manager.CountsChecks`, `Manager.SweepCounted` — what a sweep has counted on its way, and in the
  end.
* `Scheduler.Submitted` — what a submission has counted, by how it has ended.
* `Scheduler.IsSteady` — stores that do not crash when a worker is looked for.

## Main results

* `Manager.accrues_sweep` — what a sweep counts.
* `Scheduler.accrues_schedule` — what a submission counts.
* `Scheduler.Demand.accrues_zero` — nothing else counts anything.
-/

namespace ConversionScheduler

open Manager (State)
open Manager.State (query resolve change observe note count call)

/-! ## What there is to be counted -/

/-- What there is to be counted: what the scheduler counts, and the health checks for which there
could be no request. -/
inductive Tally
  | dispatched
  | dispatchFailures
  | evicted
  | healthCheckFailures
  | unsent
deriving DecidableEq

/-- Whether a worker's health is going to be checked, but there can be no request to its address. -/
def Note.isUnsent : Note → Bool
  | .examined _ _ via => !(Proxy.checkStatus { id := via.id, addr := via.addr }).request.isOk
  | _ => false

/-- What a worker says about itself, in an answer to a request. -/
def Http.Request.status? (r : Http.Request) (o : Http.Outcome) : Except CallFault WorkerStatus :=
  Proxy.decoded WorkerStatus.read? (Proxy.answer r.url o)

/-- How often something happened. -/
def Manager.State.tally {ω : Type} (s : State ω) : Tally → ℕ
  | .dispatched => s.metrics.dispatched
  | .dispatchFailures => s.metrics.dispatchFailures
  | .evicted => s.metrics.evicted
  | .healthCheckFailures => s.metrics.healthCheckFailures
  | .unsent => s.journal.countP Note.isUnsent

/-! ## What operations count -/

open Manager.State (tally)

namespace Manager

open Operation

variable {ω α : Type} {m : Manager ω} {s : State ω} {k : Tally → ℕ} {l : Answers}

/-! ### The steps of an operation -/

namespace State

/-- A call of a store counts nothing and does not wait. -/
lemma isQuick_query (q : Query ω α) : IsQuick tally (query q) := isQuick_step fun _ => rfl

/-- Resolving a record counts nothing. -/
lemma isQuick_resolve (r : WorkerRecord) : IsQuick tally (resolve (ω := ω) r) :=
  isQuick_step fun _ => rfl

/-- A change of a proxy counts nothing, even of its errors. -/
lemma isQuick_change (n : ℕ) (f : Proxy → Proxy) : IsQuick tally (change (ω := ω) n f) :=
  isQuick_update fun _ => rfl

/-- The observation of a weight counts nothing. -/
lemma isQuick_observe (r : WorkerRecord) : IsQuick tally (observe (ω := ω) r) :=
  isQuick_update fun _ => rfl

/-- A note in the journal. -/
lemma tally_note (n : Note) (s : State ω) : tally { s with journal := n :: s.journal } =
    s.tally + Pi.single .unsent (if n.isUnsent then 1 else 0) := by
  funext k
  cases k <;> simp [tally, List.countP_cons]

/-- A note counts nothing unless it is about a health check without a request. -/
lemma tally_note_of_sent {n : Note} (h : n.isUnsent = false) (s : State ω) :
    tally { s with journal := n :: s.journal } = s.tally := by
  rw [tally_note, h]
  simp

/-- Writing such a note counts nothing and does not wait. -/
lemma isQuick_note {f : State ω → Note} (h : ∀ s, (f s).isUnsent = false) :
    IsQuick tally (note f) :=
  isQuick_update fun s => tally_note_of_sent (h s) s

variable {q : Answers → (Tally → ℕ) → Prop} {p : Answers → (Tally → ℕ) → Except Failure α → Prop}

/-- A note, and what follows. -/
lemma accrues_note_bind {f : State ω → Note} {g : Unit → Operation (State ω) α}
    (hf : (f s).isUnsent = false) (hg : ∀ t, (g () t).Accrues tally q p t l k) :
    ((note f >>= g) s).Accrues tally q p s l k :=
  (hg _).of_eq (tally_note_of_sent hf s)

/-- Something that is counted, and what follows. -/
lemma accrues_count_bind {f : Metrics → Metrics} {g : Unit → Operation (State ω) α} (i : Tally)
    (hf : ∀ (s : State ω) j, tally { s with metrics := f s.metrics } j =
      s.tally j + if j = i then 1 else 0)
    (hg : ∀ t, (g () t).Accrues tally q p t l (k + Pi.single i 1)) :
    ((count f >>= g) s).Accrues tally q p s l k := by
  refine accrues_update_bind (funext fun j => ?_) (hg _)
  rw [hf s j, Pi.add_apply, Pi.single_apply]

/-- A call adds nothing, whether there can be a request or not. -/
lemma accrues_call {n : ℕ} {c : Proxy → Call α}
    (hunsent : ∀ fault, (c (s.pool.proxy n)).request = .error fault → p l k
      (((c (s.pool.proxy n)).settleUnsent fault (s.pool.proxy n)).1.mapError .reported))
    (hsent : ∀ r, (c (s.pool.proxy n)).request = .ok r → q l k ∧ ∀ o proxy, p (l ++ [(r, o)]) k
      (((c (s.pool.proxy n)).settle r o proxy).1.mapError .reported)) :
    (call n c s).Accrues tally q p s l k := by
  cases hrequest : (c (s.pool.proxy n)).request with
  | error fault =>
    rw [call_of_fault hrequest]
    exact Act.accrues_finished rfl (hunsent fault hrequest)
  | ok r =>
    obtain ⟨hq, hp⟩ := hsent r hrequest
    rw [call_of_request hrequest]
    exact ⟨0, (add_zero _).symm, by rwa [add_zero], fun o u => by
      rw [add_zero]
      exact Act.accrues_finished rfl (hp o _)⟩

end State

open State

/-! ### Membership and access -/

/-- A registration counts nothing and does not wait. -/
lemma isQuick_addWorker (q : Registration) : IsQuick tally (m.addWorker q) :=
  (isQuick_read _).bind fun _ => (isQuick_query _).bind fun _ => (isQuick_query _).bind fun r =>
    (isQuick_resolve r).bind fun n => (isQuick_change n _).bind fun _ =>
      (isQuick_observe r).bind fun _ => (isQuick_note fun _ => rfl).bind fun _ => isQuick_pure n

/-- A removal from the store counts nothing and does not wait. -/
lemma isQuick_withdraw (id : String) : IsQuick tally (m.withdraw id) :=
  (isQuick_query _).bind fun _ => isQuick_update fun _ => rfl

/-- The removal of a worker is noted, which counts nothing. -/
lemma isQuick_removeWorker (id : String) : IsQuick tally (m.removeWorker id) :=
  (isQuick_withdraw id).bind fun _ => isQuick_note fun _ => rfl

/-- A look at a record counts nothing, whether or not it is there. -/
lemma isQuick_find? (id : String) : IsQuick tally (m.find? id) := by
  refine (isQuick_query _).attempt.bind fun r => ?_
  split
  · exact isQuick_pure _
  · exact isQuick_pure _
  · exact isQuick_fail _

/-- A choice among some ids counts nothing, however many records it reads. -/
lemma isQuick_selectFrom (rounds : ℕ) (ids : List String) :
    IsQuick tally (m.selectFrom rounds ids) := by
  induction rounds generalizing ids with
  | zero => exact isQuick_pure none
  | succ rounds ih =>
    refine (isQuick_step fun _ => rfl).bind fun choice => ?_
    cases choice with
    | none => exact isQuick_pure none
    | some id =>
      refine (isQuick_find? id).bind fun r => ?_
      cases r with
      | none => exact ih _
      | some r => exact (isQuick_resolve r).bind fun n => isQuick_pure _

/-- A selection counts nothing and does not wait. -/
lemma isQuick_selectWorker : IsQuick tally m.selectWorker :=
  (isQuick_query _).bind fun ids => isQuick_selectFrom ids.length ids

/-- A look for a worker counts nothing and does not wait. -/
lemma isQuick_getWorker (id : String) : IsQuick tally (m.getWorker id) :=
  (isQuick_query _).bind fun r => isQuick_resolve r

/-- A sign of life counts nothing and does not wait. -/
lemma isQuick_heartbeat (id : String) : IsQuick tally (m.heartbeat id) :=
  (isQuick_query _).bind fun _ => (isQuick_query _).bind fun r =>
    (isQuick_resolve r).bind fun n => (isQuick_change n _).bind fun _ =>
      (isQuick_observe r).bind fun _ => (isQuick_note fun _ => rfl).bind fun _ => isQuick_pure r

/-- What is told about workers counts nothing, as nobody is asked for it. -/
lemma isQuick_summaries (ids : List String) : IsQuick tally (m.summaries ids) := by
  induction ids with
  | nil => exact isQuick_pure _
  | cons id ids ih =>
    refine (isQuick_find? id).bind fun r => ?_
    cases r with
    | none => exact ih
    | some r =>
      exact (isQuick_resolve r).bind fun n => (isQuick_read _).bind fun p =>
        ih.bind fun rest => isQuick_pure _

/-- The list of workers counts nothing and does not wait. -/
lemma isQuick_listWorkers : IsQuick tally m.listWorkers :=
  (isQuick_query _).bind fun ids => isQuick_summaries ids

/-- A renewal counts nothing, even if the record is gone. -/
lemma isQuick_renew (r : WorkerRecord) : IsQuick tally (m.renew r) := by
  refine (isQuick_query _).attempt.bind fun outcome => ?_
  split
  · exact isQuick_note fun _ => rfl
  · exact isQuick_pure _
  · exact isQuick_fail _

/-- The end of a sweep forgets workers, which are not counted as evicted. -/
lemma isQuick_prune : IsQuick tally m.prune := by
  refine (isQuick_query _).bind fun live => isQuick_update fun s => ?_
  have hforget : ∀ (ids : List String) (t : State ω),
      tally (ids.foldl State.forget t) = t.tally := by
    intro ids
    induction ids with
    | nil => exact fun _ => rfl
    | cons id ids ih => exact fun t => ih (t.forget id)
  exact hforget _ s

/-- The end of the manager counts nothing and does not wait. -/
lemma isQuick_close : IsQuick tally m.close :=
  (isQuick_update (g := fun s => { s with evictionLoop := none }) fun _ => rfl).bind fun _ =>
    isQuick_query _

/-! ### Sweeps -/

/-- What a sweep has counted: nothing about tasks, and those health checks that failed, apart from
a number of them. All that it asks workers is about their health. -/
structure CountsChecks (owed : ℕ) (l : Answers) (k : Tally → ℕ) : Prop where
  dispatched : k .dispatched = 0
  dispatchFailures : k .dispatchFailures = 0
  healthCheckFailures : k .healthCheckFailures + owed =
    k .unsent + l.countP fun x => !(x.1.status? x.2).isOk
  probes : ∀ x ∈ l, ∃ p : Proxy, p.checkStatus.request = .ok x.1

/-- The number of workers that were evicted with a verdict, if there is one. -/
def evictions {ε : Type} : Except ε Verdict → ℕ
  | .ok v =>
    match v with
    | .evictedStale | .evictedUnhealthy => 1
    | .missing | .kept => 0
  | .error _ => 0

/-- What a report says about evictions. -/
lemma evicted_enter (report : SweepReport) (v : Except Error Verdict) :
    (report.enter v).evicted = report.evicted + evictions v := by
  rcases v with e | _ | _ | _ | _ <;> simp [SweepReport.enter, SweepReport.evicted, evictions] <;>
    omega

/-- What holds when a verdict has been reached. -/
def VerdictCounted (evicted : ℕ) (l : Answers) (k : Tally → ℕ) (v : Except Failure Verdict) :
    Prop :=
  CountsChecks 0 l k ∧ k .evicted = evicted + evictions v

/-- One more eviction leaves the count of the checks. -/
lemma CountsChecks.evict (h : CountsChecks 0 l k) :
    CountsChecks 0 l (k + Pi.single .evicted 1) where
  dispatched := by simpa using h.dispatched
  dispatchFailures := by simpa using h.dispatchFailures
  healthCheckFailures := by simpa using h.healthCheckFailures
  probes := h.probes

/-- An eviction is counted unless it fails. -/
lemma accrues_evict (h : CountsChecks 0 l k) {v : Verdict}
    (hv : evictions (.ok v : Except Failure Verdict) = 1) (id : String)
    (cause : State ω → EvictionCause) :
    ((m.evict id cause >>= fun _ => pure v) s).Accrues tally (CountsChecks 0)
      (VerdictCounted (k .evicted)) s l k := by
  refine accrues_map ((isQuick_withdraw id).accrues_bind (fun _ t => ?_) fun e => ⟨h, rfl⟩)
  refine accrues_count_bind .evicted (by rintro s (_ | _) <;> rfl) fun u => ?_
  refine Act.accrues_finished (tally_note_of_sent rfl _) ⟨h.evict, ?_⟩
  simp [Except.map, hv]

/-- A failed health check is counted once it is judged. -/
lemma CountsChecks.fail (h : CountsChecks 1 l k) :
    CountsChecks 0 l (k + Pi.single .healthCheckFailures 1) where
  dispatched := by simpa using h.dispatched
  dispatchFailures := by simpa using h.dispatchFailures
  healthCheckFailures := by simpa using h.healthCheckFailures
  probes := h.probes

/-- The judgement after a health check. -/
lemma accrues_conclude (id : String) (r : WorkerRecord) (n : ℕ)
    (outcome : Except Error WorkerStatus)
    (h : CountsChecks (if outcome.isOk then 0 else 1) l k) :
    (m.conclude id r n outcome s).Accrues tally (CountsChecks 0)
      (VerdictCounted (k .evicted)) s l k := by
  cases outcome with
  | ok status =>
    refine accrues_note_bind rfl fun t => ?_
    refine (isQuick_renew r).accrues_bind (fun _ u => ?_) fun e => ⟨h, rfl⟩
    exact Act.accrues_finished rfl ⟨h, rfl⟩
  | error e =>
    -- From here on the failure is counted, and what is left is the decision about the worker.
    have hfail := CountsChecks.fail h
    have hsame : (k + Pi.single .healthCheckFailures 1 : Tally → ℕ) .evicted = k .evicted := by
      simp
    refine accrues_note_bind rfl fun t =>
      accrues_count_bind .healthCheckFailures (by rintro s (_ | _) <;> rfl) fun u => ?_
    refine (isQuick_read _).accrues_bind (fun errors u => ?_) fun e => ⟨hfail, hsame⟩
    rw [← hsame]
    split
    · exact accrues_evict hfail (v := .evictedUnhealthy) rfl id _
    · exact Act.accrues_finished rfl ⟨hfail, rfl⟩

/-- What a health check brings. -/
lemma isOk_settle_checkStatus (p : Proxy) (r : Http.Request) (o : Http.Outcome) (q : Proxy) :
    (p.checkStatus.settle r o q).1.isOk = (r.status? o).isOk := by
  unfold Call.settle Http.Request.status?
  simp only [Proxy.checkStatus]
  cases Proxy.decoded WorkerStatus.read? (Proxy.answer r.url o) <;> rfl

/-- What holds when a health check is over, and its failure has not been counted. -/
def ProbeCounted (evicted : ℕ) (l : Answers) (k : Tally → ℕ) {ε : Type}
    (r : Except ε WorkerStatus) : Prop :=
  CountsChecks (if r.isOk then 0 else 1) l k ∧ k .evicted = evicted

/-- A health check that failed since there can be no request. -/
lemma CountsChecks.unsent (h : CountsChecks 0 l k) :
    CountsChecks 1 l (k + Pi.single .unsent 1) where
  dispatched := by simpa using h.dispatched
  dispatchFailures := by simpa using h.dispatchFailures
  healthCheckFailures := by
    have hcount := h.healthCheckFailures
    simp
    omega
  probes := h.probes

/-- A health check of which the worker has said something, or has not. -/
lemma CountsChecks.answered (h : CountsChecks 0 l k) {p : Proxy} {r : Http.Request}
    (hr : p.checkStatus.request = .ok r) (o : Http.Outcome) :
    CountsChecks (if (r.status? o).isOk then 0 else 1) (l ++ [(r, o)]) k where
  dispatched := h.dispatched
  dispatchFailures := h.dispatchFailures
  healthCheckFailures := by
    have hcount := h.healthCheckFailures
    rw [List.countP_append, List.countP_singleton]
    cases (r.status? o).isOk <;> simp <;> omega
  probes x hx := by
    obtain hx | hx := List.mem_append.mp hx
    · exact h.probes x hx
    · rw [List.mem_singleton.mp hx]
      exact ⟨p, hr⟩

/-- A health check, once it has been noted that it is going to be made. -/
lemma accrues_checkStatus (n : ℕ) (id : String) (r : WorkerRecord) (h : CountsChecks 0 l k) :
    (call n Proxy.checkStatus s).Accrues tally (CountsChecks 0)
      (fun l k' r => ProbeCounted (k .evicted) l k' r ∧ r ≠ .error .crashed) s l
      (k + Pi.single .unsent
        (if (Note.examined id r (s.pool.contact n)).isUnsent then 1 else 0)) := by
  have hreported : ∀ r : Except Error WorkerStatus,
      r.mapError Failure.reported ≠ .error .crashed ∧
        (r.mapError Failure.reported).isOk = r.isOk := by
    rintro (e | status)
    · exact ⟨by simp [Except.mapError], rfl⟩
    · exact ⟨by simp [Except.mapError], rfl⟩
  have hunsent : (Note.examined id r (s.pool.contact n)).isUnsent =
      !(s.pool.proxy n).checkStatus.request.isOk := rfl
  rw [hunsent]
  refine accrues_call (fun fault hfault => ?_) fun r hr => ?_
  · rw [hfault]
    exact ⟨⟨h.unsent, by simp [Except.isOk, Except.toBool]⟩, (hreported _).1⟩
  · have hzero : (k + Pi.single .unsent
        (if !(s.pool.proxy n).checkStatus.request.isOk then 1 else 0) : Tally → ℕ) = k := by
      rw [hr]
      simp [Except.isOk, Except.toBool]
    rw [hzero]
    refine ⟨h, fun o q => ⟨⟨?_, rfl⟩, (hreported _).1⟩⟩
    rw [(hreported _).2, isOk_settle_checkStatus]
    exact h.answered hr o

/-- The judgement by a health check. -/
lemma accrues_probe (id : String) (r : WorkerRecord) (h : CountsChecks 0 l k) :
    (m.probe id r s).Accrues tally (CountsChecks 0) (VerdictCounted (k .evicted)) s l k := by
  refine (isQuick_resolve r).accrues_bind (fun n t => ?_) fun e => ⟨h, rfl⟩
  refine accrues_update_bind (tally_note _ t) ?_
  refine accrues_bind (p := fun l k' outcome => ∃ outcome', outcome = .ok outcome' ∧
    ProbeCounted (k .evicted) l k' outcome') ?_ (fun l' k' outcome u hchecked => ?_) ?_
  · refine accrues_attempt (accrues_checkStatus n id r h) ?_ ?_ ?_
    · exact fun l' k' status hchecked => ⟨_, rfl, hchecked.1⟩
    · exact fun l' k' e hchecked => ⟨_, rfl, hchecked.1⟩
    · exact fun l' k' hcrashed => absurd rfl hcrashed.2
  · obtain ⟨outcome', houtcome, hchecks, hevicted⟩ := hchecked
    rw [Except.ok.inj houtcome, ← hevicted]
    exact accrues_conclude id r n outcome' hchecks
  · rintro l' k' e ⟨outcome', houtcome, -⟩
    exact absurd houtcome (by simp)

/-- The judgement on one worker. -/
lemma accrues_judge (now : Timestamp) (id : String) (h : CountsChecks 0 l k) :
    (m.judge now id s).Accrues tally (CountsChecks 0) (VerdictCounted (k .evicted)) s l k := by
  refine (isQuick_find? id).accrues_bind (fun r t => ?_) fun e => ⟨h, rfl⟩
  cases r with
  | none => exact Act.accrues_finished rfl ⟨h, rfl⟩
  | some r =>
    dsimp only
    split
    · exact accrues_evict h (v := .evictedStale) rfl id _
    split
    · exact accrues_probe id r h
    · exact Act.accrues_finished rfl ⟨h, rfl⟩

/-- What holds when the judgement on a worker has been looked at. -/
def AttemptCounted (evicted : ℕ) (l : Answers) (k : Tally → ℕ) :
    Except Failure (Except Error Verdict) → Prop
  | .ok v => CountsChecks 0 l k ∧ k .evicted = evicted + evictions v
  | .error e => CountsChecks 0 l k ∧ e = .crashed

/-- What holds when the listed workers have been judged, apart from the evictions that were counted
or reported before. -/
def ListCounted (evicted reported : ℕ) (l : Answers) (k : Tally → ℕ) :
    Except Failure SweepReport → Prop
  | .ok report => CountsChecks 0 l k ∧ k .evicted + reported = evicted + report.evicted
  | .error e => CountsChecks 0 l k ∧ e = .crashed

/-- The judgements on the listed workers. They come to an end, or crash. -/
lemma accrues_judgeAll (now : Timestamp) (report : SweepReport) (ids : List String)
    (h : CountsChecks 0 l k) :
    (m.judgeAll now report ids s).Accrues tally (CountsChecks 0)
      (ListCounted (k .evicted) report.evicted) s l k := by
  induction ids generalizing s l k report with
  | nil => exact Act.accrues_finished rfl ⟨h, rfl⟩
  | cons id ids ih =>
    have hjudge : ((m.judge now id).attempt s).Accrues tally (CountsChecks 0)
        (AttemptCounted (k .evicted)) s l k :=
      accrues_attempt (accrues_judge now id h) (fun l k' v hv => ⟨hv.1, hv.2⟩)
        (fun l k' e he => ⟨he.1, he.2⟩) fun l k' hcrash => ⟨hcrash.1, rfl⟩
    refine accrues_bind hjudge (fun l' k' v t hv => ?_) fun l' k' e he => he
    -- What the first judgement has counted is what it has entered into the report.
    refine (ih (report.enter v) hv.1).mono (fun _ _ hq => hq) fun l'' k'' r hr => ?_
    cases r with
    | error e => exact hr
    | ok report' =>
      refine ⟨hr.1, ?_⟩
      have hsum := hr.2
      rw [evicted_enter, hv.2] at hsum
      omega

/-- What holds when a sweep is over: what it has evicted is in its report, if it makes one, and is
nothing if it fails. -/
def SweepCounted (l : Answers) (k : Tally → ℕ) : Except Failure SweepReport → Prop
  | .ok report => CountsChecks 0 l k ∧ k .evicted = report.evicted
  | .error (.reported _) => CountsChecks 0 l k ∧ k .evicted = 0
  | .error .crashed => CountsChecks 0 l k

/-- **A sweep counts what it reports.** It has counted the health checks that failed whenever it
waits, and the evictions of its report when it is over.

**Proof sketch.** An eviction is counted once the worker has been removed, and from then on nothing
keeps the verdict from the report. A health check without a request fails at once; another one is
judged as soon as its answer is there. -/
theorem accrues_sweep (m : Manager ω) (s : State ω) :
    (m.sweep s).Accrues tally (CountsChecks 0) SweepCounted s [] 0 := by
  have hstart : CountsChecks 0 [] 0 := ⟨rfl, rfl, rfl, fun x hx => absurd hx List.not_mem_nil⟩
  have hfailed : ∀ e, SweepCounted [] 0 (.error e) := by
    rintro (e | ⟨⟩)
    · exact ⟨hstart, rfl⟩
    · exact hstart
  refine (isQuick_query _).accrues_bind (fun ids t => ?_) hfailed
  refine (isQuick_read _).accrues_bind (fun now u => ?_) hfailed
  refine accrues_bind (accrues_judgeAll now {} ids hstart) (fun l k report v hjudged => ?_)
    fun l k e hcrashed => ?_
  · have hevicted : k .evicted = report.evicted := by
      simpa [SweepReport.evicted] using hjudged.2
    exact isQuick_prune.accrues_attempt_bind
      (fun _ w => Act.accrues_finished rfl ⟨hjudged.1, hevicted⟩) hjudged.1
  · rw [hcrashed.2]
    exact hcrashed.1

end Manager

/-! ### Submissions -/

namespace Scheduler

open Manager Manager.State Operation

variable {ω α β : Type} {c : Scheduler ω} {t : Task} {s : State ω} {l : Answers} {k : Tally → ℕ}

/-- Whether a worker took a task, which it could since no other one had taken it. -/
def Takes (t : Task) (l : Answers) : Prop := t.assignment = none ∧ ∃ x ∈ l, x.1.IsTaken x.2

/-- Whether no call of the stores crashes that a submission makes after its first one. -/
structure IsSteady (c : Scheduler ω) : Prop where
  update : ∀ t w, (c.stores.tasks.update t w).1 ≠ .error .crashed
  remove : ∀ id w, (c.stores.tasks.remove id w).1 ≠ .error .crashed
  ids : ∀ w, (c.stores.workers.ids w).1 ≠ .error .crashed
  get : ∀ id w, (c.stores.workers.get id w).1 ≠ .error .crashed

/-- The submission of a task that began in `s`, the answers to it, how it ended, if it did, and how
often it has been counted as a success and as a failure. -/
inductive Submitted (c : Scheduler ω) (t : Task) (s : State ω) (l : Answers) :
    Option (Except Failure α) → ℕ → ℕ → Prop
  | waiting : Submitted c t s l none 0 0
  | refused {e : Failure} (unwritten : (c.stores.tasks.add t s.world).1.isOk = false) :
    Submitted c t s l (some (.error e)) 0 0
  | crashed {failures : ℕ} (once : failures ≤ 1) (unsteady : ¬ c.IsSteady) :
    Submitted c t s l (some (.error .crashed)) 0 failures
  | dispatched {x : α} (written : (c.stores.tasks.add t s.world).1.isOk = true) :
    Submitted c t s l (some (.ok x)) 1 0
  | failed {e : Error} (written : (c.stores.tasks.add t s.world).1.isOk = true)
    (untaken : ¬ Takes t l) : Submitted c t s l (some (.error (.reported e))) 0 1
  | lost {e : Error} (written : (c.stores.tasks.add t s.world).1.isOk = true)
    (taken : Takes t l) : Submitted c t s l (some (.error (.reported e))) 0 0

/-- What a submission has counted, of which nothing is about workers. -/
structure CountsOutcome (c : Scheduler ω) (t : Task) (s : State ω) (l : Answers) (k : Tally → ℕ)
    (r : Option (Except Failure α)) : Prop where
  evicted : k .evicted = 0
  healthCheckFailures : k .healthCheckFailures = 0
  unsent : k .unsent = 0
  outcome : c.Submitted t s l r (k .dispatched) (k .dispatchFailures)

/-- Without an answer no worker takes the task. -/
lemma not_takes_nil (t : Task) : ¬ Takes t [] := fun ⟨_, _, hx, _⟩ => absurd hx List.not_mem_nil

/-- What the only answer tells. -/
lemma isOk_settle_dispatch (p : Proxy) (t : Task) (r : Http.Request) (o : Http.Outcome)
    (q : Proxy) : (((p.dispatch t).settle r o q).1.mapError Failure.reported).isOk = true ↔
      Takes t [(r, o)] := by
  have htakes : Takes t [(r, o)] ↔ t.assignment = none ∧ r.IsTaken o := by simp [Takes]
  rw [htakes]
  obtain ⟨⟨e, he⟩, huntaken⟩ | ⟨a, hne, hunassigned, htaken, hsettle⟩ := p.settle_dispatch t r o q
  · rw [he]
    exact iff_of_false (by simp [Except.mapError, Except.isOk, Except.toBool]) huntaken
  · rw [hsettle]
    exact iff_of_true rfl ⟨hunassigned, a.remoteId, hne, htaken⟩

/-- What holds when the search for a worker is over: it has counted nothing, and it has succeeded if
a worker takes the task. -/
def SearchCounted (c : Scheduler ω) (t : Task) (l : Answers) (k : Tally → ℕ)
    (r : Except Failure Task) : Prop :=
  k = 0 ∧ (r.isOk = true ↔ Takes t l) ∧ (r = .error .crashed → ¬ c.IsSteady)

/-- A search that comes to a result, or to an error that is reported, has counted nothing and has
not crashed. -/
lemma searchCounted_of_reported {r : Except Error Task}
    (h : (r.mapError Failure.reported).isOk = true ↔ Takes t l) :
    c.SearchCounted t l 0 (r.mapError .reported) :=
  ⟨rfl, h, fun hr => by cases r <;> simp [Except.mapError] at hr⟩

/-- The search for a worker counts nothing, and it succeeds just if a worker takes the task. -/
lemma accrues_execute (t : Task) (s : State ω) :
    (c.execute t s).Accrues tally (fun _ k => k = 0) (c.SearchCounted t) s [] 0 := by
  have hfailed : ∀ e, (Except.error e : Except Failure Task).isOk = true ↔ Takes t [] := fun e =>
    iff_of_false (by simp [Except.isOk, Except.toBool]) (not_takes_nil t)
  obtain ⟨choice, u, hrun, hsame⟩ := isQuick_selectWorker (m := c.manager) s
  rw [execute, bind_apply, hrun]
  rcases choice with e | _ | n
  · refine Act.accrues_finished hsame ⟨rfl, hfailed e, fun he hsteady => ?_⟩
    obtain rfl := Except.error.inj he
    obtain hids | ⟨id, w, hget⟩ := selectWorker_eq_error hrun
    · exact hsteady.ids _ hids
    · exact hsteady.get id w hget
  · exact Act.accrues_finished hsame
      (searchCounted_of_reported (r := .error .noWorkerAvailable) (hfailed _))
  · refine Act.Accrues.of_eq ?_ hsame
    refine accrues_bind (p := c.SearchCounted t)
      (accrues_call (fun fault _ => searchCounted_of_reported (hfailed _)) fun r _ =>
        ⟨rfl, fun o q => searchCounted_of_reported (isOk_settle_dispatch _ t r o q)⟩)
      (fun l k f v hf => ?_) fun l k e he => he
    exact accrues_note_bind rfl fun w => Act.accrues_finished rfl hf

/-- Taking back the record of a task adds nothing, and ends well unless it crashes. -/
lemma accrues_rollBack {q : Answers → (Tally → ℕ) → Prop}
    {p : Answers → (Tally → ℕ) → Except Failure Unit → Prop} (id : String) (hok : p l k (.ok ()))
    (hcrash : ¬ c.IsSteady → p l k (.error .crashed)) :
    (c.rollBack id s).Accrues tally q p s l k := by
  unfold rollBack
  split
  · rcases hremove : c.stores.tasks.remove id s.world with ⟨(e | ⟨⟩) | ⟨⟩, w⟩ <;>
      rw [bind_apply, Operation.attempt, State.query_eq hremove]
    · exact Act.accrues_finished rfl hok
    · exact Act.accrues_finished rfl (hcrash fun hsteady => hsteady.remove id _ (by rw [hremove]))
    · exact Act.accrues_finished rfl hok
  · exact Act.accrues_finished rfl hok

/-- What is known of a submission that has counted a failure, or nothing, or a success. -/
lemma Submitted.counts_failure {r : Option (Except Failure α)} (h : c.Submitted t s l r 0 1) :
    CountsOutcome c t s l (0 + Pi.single .dispatchFailures 1) r :=
  ⟨by simp, by simp, by simp, by simpa using h⟩

/-- A success is counted once. -/
lemma Submitted.counts_success {r : Option (Except Failure α)} (h : c.Submitted t s l r 1 0) :
    CountsOutcome c t s l (0 + Pi.single .dispatched 1) r :=
  ⟨by simp, by simp, by simp, by simpa using h⟩

/-- Whatever is known of a submission that has counted nothing. -/
lemma Submitted.counts_nothing {r : Option (Except Failure α)} (h : c.Submitted t s l r 0 0) :
    CountsOutcome c t s l 0 r :=
  ⟨rfl, rfl, rfl, h⟩

/-- The end of a submission whose record was written. -/
lemma accrues_conclude (hwritten : (c.stores.tasks.add t s.world).1.isOk = true)
    (r : Except Failure Task) (hr : c.SearchCounted t l k r) (u : State ω) :
    (c.conclude t r u).Accrues tally
      (fun l k => CountsOutcome c t s l k (none : Option (Except Failure Task)))
      (fun l k r => CountsOutcome c t s l k (some r)) u l k := by
  obtain ⟨rfl, htaken, hcrashed⟩ := hr
  rcases r with (e | ⟨⟩) | f
  · have huntaken : ¬ Takes t l := fun h =>
      absurd (htaken.mpr h) (by simp [Except.isOk, Except.toBool])
    -- The failure is counted first, so nothing that follows can take it back.
    refine accrues_count_bind .dispatchFailures (by rintro s (_ | _) <;> rfl) fun v => ?_
    exact accrues_bind (p := fun l k r => CountsOutcome c t s l k
      (some (r.bind fun _ => .error (.reported e)) : Option (Except Failure Task)))
      (accrues_rollBack t.id (Submitted.failed hwritten huntaken).counts_failure
        fun hcrash => (Submitted.crashed le_rfl hcrash).counts_failure)
      (fun l k _ v h => Act.accrues_finished rfl h) fun l k e' h => h
  · exact Act.accrues_finished rfl
      (Submitted.crashed (Nat.zero_le 1) (hcrashed rfl)).counts_nothing
  · show ((query (c.stores.tasks.update f) >>= _) u).Accrues _ _ _ u l 0
    -- The success is counted last, and only if the assignment has been written.
    rcases hupdate : c.stores.tasks.update f u.world with ⟨(e | ⟨⟩) | ⟨⟩, w⟩
    · rw [State.query_bind_error hupdate]
      exact Act.accrues_finished rfl (Submitted.lost hwritten (htaken.mp rfl)).counts_nothing
    · rw [State.query_bind_error hupdate]
      exact Act.accrues_finished rfl (Submitted.crashed (Nat.zero_le 1) fun hsteady =>
        hsteady.update f _ (by rw [hupdate])).counts_nothing
    · rw [State.query_bind_ok hupdate]
      refine Act.Accrues.of_eq (t := { u with world := w }) ?_ rfl
      exact accrues_count_bind .dispatched (by rintro s (_ | _) <;> rfl) fun v =>
        Act.accrues_finished rfl (Submitted.dispatched hwritten).counts_success

/-- **What a submission counts**, and when it does not.

**Proof sketch.** While the submission waits for the worker, it has not counted anything. A failure
is counted before the record is taken back. A success is counted after the assignment has been
written, and if it cannot be written, that is the end of the submission. -/
theorem accrues_schedule (c : Scheduler ω) (t : Task) (s : State ω) :
    (c.schedule t s).Accrues tally
      (fun l k => CountsOutcome c t s l k (none : Option (Except Failure Task)))
      (fun l k r => CountsOutcome c t s l k (some r)) s [] 0 := by
  rcases hadd : c.stores.tasks.add t s.world with ⟨e | ⟨⟩, w⟩
  · have hunwritten : (c.stores.tasks.add t s.world).1.isOk = false := by rw [hadd]; rfl
    rw [schedule, State.query_bind_error hadd]
    exact Act.accrues_finished rfl (Submitted.refused hunwritten).counts_nothing
  · have hwritten : (c.stores.tasks.add t s.world).1.isOk = true := by rw [hadd]; rfl
    rw [schedule_of_add hadd]
    refine Act.Accrues.of_eq (t := { s with world := w }) ?_ rfl
    refine ((accrues_execute t _).mono (fun l k hk => ?_) fun _ _ _ h => h).andThen
      fun l k r u hr => ?_
    · rw [hk]
      exact Submitted.waiting.counts_nothing
    · exact accrues_conclude hwritten r hr u

/-! ### Everything else -/

/-- Asking a worker about a task counts nothing. -/
lemma accrues_remoteStatus (remoteId workerId : String) :
    (c.remoteStatus remoteId workerId s).Accrues tally (fun _ k => k = 0) (fun _ k _ => k = 0) s l
      0 := by
  refine isQuick_getWorker _ |>.accrues_bind (fun n u => ?_) fun e => rfl
  refine accrues_bind (p := fun _ k _ => k = 0)
    (accrues_call (fun fault _ => rfl) fun r _ => ⟨rfl, fun o q => rfl⟩)
    (fun l k report v hk => ?_) fun l k e hk => hk
  exact accrues_note_bind rfl fun w => Act.accrues_finished rfl hk

/-- An inquiry about a task counts nothing. -/
lemma accrues_status (id : String) :
    (c.status id s).Accrues tally (fun _ k => k = 0) (fun _ k _ => k = 0) s l 0 := by
  refine (isQuick_query _).accrues_bind (fun t u => ?_) fun e => rfl
  cases t.assignment with
  | none => exact Act.accrues_finished rfl rfl
  | some a =>
    refine accrues_bind (accrues_remoteStatus a.remoteId a.workerId) (fun l k report v hk => ?_)
      fun l k e hk => hk
    dsimp only
    split
    · exact (isQuick_query _).accrues_bind (fun _ w => Act.accrues_finished rfl hk) fun e => hk
    · exact Act.accrues_finished rfl hk

/-- The end of a scheduler counts nothing and does not wait. -/
lemma isQuick_stop : IsQuick tally c.stop := isQuick_close.bind fun _ => isQuick_query _

/-- **Nothing else counts anything.** -/
theorem Demand.accrues_zero (c : Scheduler ω) (s : State ω) (d : Demand)
    (hsubmit : ∀ t, d ≠ .submit t) (hsweep : d ≠ .manage .sweep) :
    (d.run c s).Accrues tally (fun _ k => k = 0) (fun _ k _ => k = 0) s [] 0 := by
  have hdiscard : ∀ {α : Type} {x : Operation (State ω) α},
      (x s).Accrues tally (fun _ k => k = 0) (fun _ k _ => k = 0) s [] 0 →
      ((x >>= fun _ => pure ()) s).Accrues tally (fun _ k => k = 0) (fun _ k _ => k = 0) s [] 0 :=
    fun hx => accrues_map hx
  cases d with
  | submit t => exact absurd rfl (hsubmit t)
  | poll id => exact hdiscard (accrues_status id)
  | stop => exact isQuick_stop.accrues fun _ => rfl
  | manage a =>
    cases a with
    | register r => exact hdiscard ((isQuick_addWorker r).accrues fun _ => rfl)
    | deregister id => exact (isQuick_removeWorker id).accrues fun _ => rfl
    | heartbeat id => exact hdiscard ((isQuick_heartbeat id).accrues fun _ => rfl)
    | select => exact hdiscard (isQuick_selectWorker.accrues fun _ => rfl)
    | find id => exact hdiscard ((isQuick_getWorker id).accrues fun _ => rfl)
    | list => exact hdiscard (isQuick_listWorkers.accrues fun _ => rfl)
    | sweep => exact absurd rfl hsweep
    | execute t =>
      exact hdiscard ((accrues_execute t s).mono (fun _ _ h => h) fun _ _ _ h => h.1)
    | ask remoteId workerId => exact hdiscard (accrues_remoteStatus remoteId workerId)

end Scheduler

end ConversionScheduler
