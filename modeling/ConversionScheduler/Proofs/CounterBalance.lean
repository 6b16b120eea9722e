import ConversionScheduler.Proofs.Counters
/-!
# The counters balance

The counters are held against what has happened in a run: the reports of the sweeps, the answers
that workers gave, and the results of the submissions.

The evictions are those that sweeps have reported, together with those of sweeps that are not over
yet. The failed health checks are those to which no worker said what it was asked. And each
submission that has come back after the record of its task was written was counted once, as a
success or as a failure, with one exception: it is *lost* to the counters if the worker has taken
the task, but the assignment could not be written.

## Main definitions

* `Scheduler.Demand.perform` — what is done about a demand, with the report if it is a sweep.
* `Scheduler.Recounts` — what can come of a state, with a transcript of it.
* `Errand.reported`, `Errand.failedProbes` — what a sweep reports, and what it was not told.
* `Errand.isRecorded`, `Errand.isLost` — submissions that were written, and those that are lost.
* `Scheduler.Balances` — counters that fit a transcript.

## Main results

* `Scheduler.balances_of_recounts` — the counters fit the transcript of every run.
* `Scheduler.Balances.submissions_of_stores` — the submissions, where the stores do not crash.
-/

namespace ConversionScheduler

open Manager (State)
open Manager.State (tally)

/-! ## Runs with reports -/

namespace Scheduler

open Manager Manager.State Operation

variable {ω α β : Type} {c : Scheduler ω} {t : Task} {s : State ω} {l : Answers} {k : Tally → ℕ}

/-- What is done about a demand, with the report if it is a sweep. -/
def Demand.perform (c : Scheduler ω) : Demand → Operation (State ω) (Option SweepReport)
  | .manage .sweep => do return some (← c.manager.sweep)
  | d => do
    d.run c
    return none

/-- Apart from the report this is what is done about a demand.

**Proof sketch.** The report of a sweep is dropped, and the other demands have none. Dropping a
result twice is dropping it once, which for an operation that pauses is shown for what follows each
outcome. -/
theorem Demand.discard_perform (c : Scheduler ω) (d : Demand) :
    (do let _ ← d.perform c) = d.run c := by
  have hmap : ∀ {α β : Type} (x : Operation (State ω) α) (f : α → β),
      ((x >>= fun a => pure (f a)) >>= fun _ => pure ()) = (x >>= fun _ => pure ()) := by
    intro α β x f
    funext s
    rw [bind_apply, bind_apply, Act.andThen_assoc, bind_apply]
    congr
    funext r t
    cases r <;> rfl
  have hunit : ∀ x : Operation (State ω) Unit, (x >>= fun _ => pure ()) = x := by
    intro x
    funext s
    rw [bind_apply]
    induction x s with
    | finished r t => rcases r with e | ⟨⟩ <;> rfl
    | waiting r t k ih =>
      show Act.waiting r t _ = _
      congr
      funext o u
      exact ih o u
  by_cases hsweep : d = .manage .sweep
  · rw [hsweep]
    exact hmap c.manager.sweep some
  · have hperform : d.perform c = (d.run c >>= fun _ => pure none) := by
      unfold Demand.perform
      split
      · exact absurd rfl hsweep
      · rfl
    rw [hperform]
    exact (hmap (d.run c) fun _ => none).trans (hunit _)

/-- What can come of a state, with the transcript, when demands come in any order and take turns in
any way, and the workers answer whatever they like, or not at all. What happens outside of the
operations may change everything but the counters and the journal. -/
def Recounts (c : Scheduler ω) (s : State ω)
    (n : Transcript Demand (State ω) (Option SweepReport)) : Prop :=
  Transcript.Later (Demand.perform c)
    (fun t u => u.metrics = t.metrics ∧ u.journal = t.journal) ⟨s, []⟩ n

namespace Recounts

variable {n : Transcript Demand (State ω) (Option SweepReport)}

/-- At first there is nothing to recount. -/
lemma refl : c.Recounts s ⟨s, []⟩ := Relation.ReflTransGen.refl

/-- One more demand comes. -/
lemma begin (h : c.Recounts s n) (d : Demand) : c.Recounts s (n.begin (Demand.perform c) d) :=
  Relation.ReflTransGen.tail h (.begin n d)

/-- An operation that waits gets the outcome of its request. -/
lemma answer (h : c.Recounts s n) (i : ℕ) (o : Http.Outcome) : c.Recounts s (n.answer i o) :=
  Relation.ReflTransGen.tail h (.answer n i o)

end Recounts

/-- What is counted for a demand. -/
def Demand.Counts (c : Scheduler ω) : Demand → State ω → Answers → (Tally → ℕ) →
    Option (Except Failure (Option SweepReport)) → Prop
  | .submit t, s, l, k, r => CountsOutcome c t s l k r
  | .manage .sweep, _, l, k, r =>
    (r = none ∧ CountsChecks 0 l k) ∨ ∃ r', r = some (r'.map some) ∧ SweepCounted l k r'
  | _, _, _, k, _ => k = 0

/-- What a submission counts does not depend on what is done with its result. -/
lemma Submitted.map {r : Option (Except Failure α)} {a b : ℕ} (h : c.Submitted t s l r a b)
    (f : α → β) : c.Submitted t s l (r.map (Except.map f)) a b := by
  cases h with
  | waiting => exact .waiting
  | refused unwritten => exact .refused unwritten
  | crashed once unsteady => exact .crashed once unsteady
  | dispatched written => exact .dispatched written
  | failed written untaken => exact .failed written untaken
  | lost written taken => exact .lost written taken

/-- The same for all that it counts. -/
lemma CountsOutcome.map {r : Option (Except Failure α)} (h : CountsOutcome c t s l k r)
    (f : α → β) : CountsOutcome c t s l k (r.map (Except.map f)) :=
  ⟨h.evicted, h.healthCheckFailures, h.unsent, h.outcome.map f⟩

/-- Every demand counts what it should.

**Proof sketch.** A submission counts as `accrues_schedule` says and a sweep as `accrues_sweep`
says. Every other demand counts nothing. -/
theorem Demand.accrues (c : Scheduler ω) (d : Demand) (s : State ω) :
    (d.perform c s).Accrues tally (fun l k => d.Counts c s l k none)
      (fun l k r => d.Counts c s l k (some r)) s [] 0 := by
  have hzero : ∀ d : Demand, (∀ t, d ≠ .submit t) → d ≠ .manage .sweep →
      (d.perform c s).Accrues tally (fun _ k => k = 0) (fun _ k _ => k = 0) s [] 0 := by
    intro d hsubmit hsweep
    unfold Demand.perform
    split
    · exact absurd rfl hsweep
    · exact accrues_map (d.accrues_zero c s hsubmit hsweep)
  cases d with
  | submit t =>
    exact accrues_map (accrues_map ((c.accrues_schedule t s).mono
      (fun l k h => h.map fun _ => none) fun l k r h => (h.map fun _ => ()).map fun _ => none))
  | poll id => exact hzero _ (by simp) (by simp)
  | stop => exact hzero _ (by simp) (by simp)
  | manage a =>
    cases a with
    | sweep =>
      refine accrues_map ((accrues_sweep c.manager s).mono (fun l k h => .inl ⟨rfl, h⟩)
        fun l k r h => .inr ⟨r, rfl, h⟩)
    | _ => exact hzero _ (by simp) (by simp)

end Scheduler

/-! ## One operation -/

open Scheduler (Demand Takes)

/-- Whether an answer takes a task on can be computed from it. -/
instance (r : Http.Request) (o : Http.Outcome) : Decidable (r.IsTaken o) :=
  decidable_of_iff _ Http.Request.refusal?_eq_none_iff

/-- So can whether one of several answers does. -/
instance (t : Task) (l : Answers) : Decidable (Takes t l) :=
  inferInstanceAs (Decidable (t.assignment = none ∧ ∃ x ∈ l, x.1.IsTaken x.2))

namespace Errand

variable {ω : Type} (c : Scheduler ω) (e : Errand Demand (State ω) (Option SweepReport))

/-- Whether the operation is over with a result. -/
def hasSucceeded : Bool :=
  match e.act.result? with
  | some (.ok _) => true
  | _ => false

/-- Whether the operation is over with an error. -/
def hasFailed : Bool :=
  match e.act.result? with
  | some (.error (.reported _)) => true
  | _ => false

/-- Whether the operation has come back to those who asked for it: it is over, and has not
crashed. -/
def hasReturned : Bool := e.hasSucceeded || e.hasFailed

/-- The evictions that a sweep has reported. -/
def reported : ℕ :=
  match e.demand, e.act.result? with
  | .manage .sweep, some (.ok (some report)) => report.evicted
  | _, _ => 0

/-- The health checks of a sweep to which workers did not say what they are asked for. -/
def failedProbes : ℕ :=
  match e.demand with
  | .manage .sweep => e.answers.countP fun x => !(x.1.status? x.2).isOk
  | _ => 0

/-- Whether the operation is a submission and the record of its task was written. -/
def isRecorded : Bool :=
  match e.demand with
  | .submit t => (c.stores.tasks.add t e.begun.world).1.isOk
  | _ => false

/-- Whether the operation is a submission that failed after the record of its task was written and
a worker had taken the task: the assignment could not be written. -/
def isLost : Bool :=
  match e.demand with
  | .submit t => e.isRecorded c && e.hasFailed && decide (Takes t e.answers)
  | _ => false

/-- What the operation has counted, unless it has returned. -/
def unreturned (k : Tally) : ℕ := if e.hasReturned then 0 else e.added tally k

/-- How often a submission that has returned should have been counted as a success and as a failure,
given that the record of its task was written. -/
def share : ℕ × ℕ :=
  if e.isLost c then (0, 0) else if e.hasSucceeded then (1, 0) else (0, 1)

/-- What is known about the counting of one operation. -/
structure IsCounted : Prop where
  evicted : e.added tally .evicted = e.reported + e.unreturned .evicted
  healthCheckFailures : e.added tally .healthCheckFailures = e.added tally .unsent + e.failedProbes
  submissions : e.added tally .dispatched + e.added tally .dispatchFailures +
      (if e.isLost c then 1 else 0) =
    (if e.isRecorded c && e.hasReturned then 1 else 0) +
      (e.unreturned .dispatched + e.unreturned .dispatchFailures)
  share : e.isRecorded c → e.hasReturned →
    (e.added tally .dispatched, e.added tally .dispatchFailures) = e.share c
  unreturned : e.unreturned .dispatched + e.unreturned .dispatchFailures = 0 ∨
    e.act.result? = some (.error .crashed) ∧ ¬ c.IsSteady
  probes : e.demand = .manage .sweep → ∀ x ∈ e.answers, ∃ p : Proxy, p.checkStatus.request = .ok x.1

variable {c e}

/-- A submission that counts by its outcome is counted as it should be.

**Proof sketch.** Nothing but the dispatches is counted in a submission, and its outcome says which
of the two counters has grown, in each case as the share of the submission does. -/
lemma isCounted_of_submission {t : Task} (ht : e.demand = .submit t)
    (h : Scheduler.CountsOutcome c t e.begun e.answers (e.added tally) e.act.result?) :
    e.IsCounted c := by
  obtain ⟨hevicted, hfailures, hunsent, houtcome⟩ := h
  have hevicted : e.added tally .evicted = e.reported + e.unreturned .evicted := by
    simp [reported, unreturned, ht, hevicted]
  have hfailures : e.added tally .healthCheckFailures =
      e.added tally .unsent + e.failedProbes := by
    simp [failedProbes, ht, hfailures, hunsent]
  have hprobes : e.demand = .manage .sweep →
      ∀ x ∈ e.answers, ∃ p : Proxy, p.checkStatus.request = .ok x.1 := by
    simp [ht]
  generalize hr : e.act.result? = r at houtcome
  generalize ha : e.added tally .dispatched = a at houtcome
  generalize hb : e.added tally .dispatchFailures = b at houtcome
  refine ⟨hevicted, hfailures, ?_, ?_, ?_, hprobes⟩ <;>
    simp only [share, isLost, isRecorded, unreturned, hasReturned, hasSucceeded, hasFailed, ht, hr,
      ha, hb]
  · cases houtcome with
    | waiting => simp
    | @refused e unwritten => rcases e with e | ⟨⟩ <;> simp [unwritten]
    | crashed once unsteady => simp
    | dispatched written => simp [written]
    | failed written untaken => simp [written, untaken]
    | lost written taken => simp [written, taken]
  · cases houtcome with
    | waiting => simp
    | refused unwritten => simp [unwritten]
    | crashed once unsteady => simp
    | dispatched written => simp
    | failed written untaken => simp [untaken]
    | lost written taken => simp [written, taken]
  · cases houtcome with
    | crashed once unsteady => exact .inr ⟨rfl, unsteady⟩
    | refused unwritten => exact .inl (by simp)
    | _ => exact .inl (by simp)

/-- What is not a submission counts none. -/
lemma isCounted_of_ne (hsubmit : ∀ t, e.demand ≠ .submit t)
    (hdispatched : e.added tally .dispatched = 0)
    (hdispatchFailures : e.added tally .dispatchFailures = 0)
    (hevicted : e.added tally .evicted = e.reported + e.unreturned .evicted)
    (hfailures : e.added tally .healthCheckFailures = e.added tally .unsent + e.failedProbes)
    (hprobes : e.demand = .manage .sweep →
      ∀ x ∈ e.answers, ∃ p : Proxy, p.checkStatus.request = .ok x.1) : e.IsCounted c := by
  have hrecorded : e.isRecorded c = false := by
    unfold isRecorded
    split
    · exact absurd ‹_› (hsubmit _)
    · rfl
  have hlost : e.isLost c = false := by
    unfold isLost
    split
    · exact absurd ‹_› (hsubmit _)
    · rfl
  refine ⟨hevicted, hfailures, ?_, fun h => absurd (hrecorded.symm.trans h) (by simp), .inl ?_,
    hprobes⟩ <;>
    simp [hlost, hrecorded, unreturned, hdispatched, hdispatchFailures]

/-- A sweep that counts what it checks and reports is counted as it should be. -/
lemma isCounted_of_sweep (hsweep : e.demand = .manage .sweep)
    (h : e.act.result? = none ∧ Manager.CountsChecks 0 e.answers (e.added tally) ∨
      ∃ r, e.act.result? = some (r.map some) ∧ Manager.SweepCounted e.answers (e.added tally) r) :
    e.IsCounted c := by
  have hchecks : Manager.CountsChecks 0 e.answers (e.added tally) := by
    obtain ⟨-, h⟩ | ⟨(e | ⟨⟩) | report, -, h⟩ := h
    · exact h
    · exact h.1
    · exact h
    · exact h.1
  refine isCounted_of_ne (by simp [hsweep]) hchecks.dispatched hchecks.dispatchFailures ?_ ?_
    fun _ => hchecks.probes
  · simp only [reported, unreturned, hasReturned, hasSucceeded, hasFailed, hsweep]
    obtain ⟨hr, h⟩ | ⟨(e' | ⟨⟩) | report, hr, h⟩ := h
    · simp [hr]
    · simp [hr, Except.map, h.2]
    · simp [hr, Except.map]
    · simp [hr, Except.map, h.2]
  · simpa [failedProbes, hsweep] using hchecks.healthCheckFailures

/-- What is neither a submission nor a sweep is counted as it should be if it counts nothing. -/
lemma isCounted_of_zero (h : e.added tally = 0) (hsubmit : ∀ t, e.demand ≠ .submit t)
    (hsweep : e.demand ≠ .manage .sweep) : e.IsCounted c := by
  have hreported : e.reported = 0 := by
    unfold reported
    split
    · exact absurd ‹_› hsweep
    · rfl
  have hprobes : e.failedProbes = 0 := by
    unfold failedProbes
    split
    · exact absurd ‹_› hsweep
    · rfl
  exact isCounted_of_ne hsubmit (by simp [h]) (by simp [h]) (by simp [hreported, unreturned, h])
    (by simp [hprobes, h]) fun hd => absurd hd hsweep

/-- An operation that counts what it should is counted as it should be. -/
lemma isCounted (h : e.demand.Counts c e.begun e.answers (e.added tally) e.act.result?) :
    e.IsCounted c := by
  cases hd : e.demand with
  | submit t =>
    rw [hd] at h
    exact isCounted_of_submission hd h
  | poll id =>
    rw [hd] at h
    exact isCounted_of_zero h (by simp [hd]) (by simp [hd])
  | stop =>
    rw [hd] at h
    exact isCounted_of_zero h (by simp [hd]) (by simp [hd])
  | manage a =>
    rw [hd] at h
    cases a with
    | sweep => exact isCounted_of_sweep hd h
    | _ => exact isCounted_of_zero h (by simp [hd]) (by simp [hd])

end Errand

/-! ## The whole run -/

namespace Scheduler

variable {ω : Type} {c : Scheduler ω} {s : State ω}

/-- Counters that fit a transcript. -/
structure Balances (c : Scheduler ω) (n : Transcript Demand (State ω) (Option SweepReport)) :
    Prop where
  /-- The evictions are those that sweeps have reported, and those of sweeps that have not come
  back. -/
  evicted : n.state.metrics.evicted = (n.errands.map fun e => e.reported).sum +
    (n.errands.map fun e => e.unreturned .evicted).sum
  /-- The failed health checks are those for which there could be no request, and those to which no
  worker said what it was asked. -/
  healthCheckFailures : n.state.metrics.healthCheckFailures =
    n.state.journal.countP Note.isUnsent + (n.errands.map fun e => e.failedProbes).sum
  /-- A sweep asks workers for nothing else. -/
  probes : ∀ e ∈ n.errands, e.demand = .manage .sweep →
    ∀ x ∈ e.answers, ∃ p : Proxy, p.checkStatus.request = .ok x.1
  /-- The submissions that are counted are those that have come back after a record was written,
  unless they are lost, and maybe some that have crashed. -/
  submissions : n.state.metrics.dispatched + n.state.metrics.dispatchFailures +
      n.errands.countP (fun e => e.isLost c) =
    n.errands.countP (fun e => e.isRecorded c && e.hasReturned) +
      (n.errands.map fun e => e.unreturned .dispatched + e.unreturned .dispatchFailures).sum
  /-- One that has succeeded is counted once as a success, one that has failed is counted once as a
  failure, and one that is lost is not counted. -/
  share : ∀ e ∈ n.errands, e.isRecorded c → e.hasReturned →
    (e.added tally .dispatched, e.added tally .dispatchFailures) = e.share c
  /-- One that has not come back has not been counted, unless the stores can crash, and it did. -/
  unreturned : ∀ e ∈ n.errands,
    e.unreturned .dispatched + e.unreturned .dispatchFailures = 0 ∨
      e.act.result? = some (.error .crashed) ∧ ¬ c.IsSteady

/-- The sums of what is counted.

**Proof sketch.** Induction on the errands, adding up the equations of each. -/
lemma sums_of_isCounted {es : List (Errand Demand (State ω) (Option SweepReport))}
    (h : ∀ e ∈ es, e.IsCounted c) :
    (es.map fun e => e.added tally .evicted).sum = (es.map fun e => e.reported).sum +
        (es.map fun e => e.unreturned .evicted).sum ∧
      (es.map fun e => e.added tally .healthCheckFailures).sum =
        (es.map fun e => e.added tally .unsent).sum + (es.map fun e => e.failedProbes).sum ∧
      (es.map fun e => e.added tally .dispatched).sum +
          (es.map fun e => e.added tally .dispatchFailures).sum +
          es.countP (fun e => e.isLost c) =
        es.countP (fun e => e.isRecorded c && e.hasReturned) +
          (es.map fun e => e.unreturned .dispatched + e.unreturned .dispatchFailures).sum := by
  induction es with
  | nil => exact ⟨rfl, rfl, rfl⟩
  | cons e es ih =>
    obtain ⟨hevicted, hfailures, hsubmissions⟩ :=
      ih fun e' he' => h e' (List.mem_cons_of_mem e he')
    obtain ⟨hevicted', hfailures', hsubmissions', -, -, -⟩ := h e List.mem_cons_self
    simp only [List.map_cons, List.sum_cons, List.countP_cons]
    exact ⟨by omega, by omega, by omega⟩

/-- **The counters balance.** Demands come in any order and take turns in any way, calls of the
stores fail or not, workers answer whatever they like or not at all. What is counted is what has
happened, except that submissions can be lost: those that come back with an error since the
assignment cannot be written after the worker has taken the task.

**Proof sketch.** Each counter has grown by what the operations have added to it when it was their
turn. A sweep adds an eviction with each such verdict that it enters into its report, and a failure
with each health check that fails. A submission adds nothing before the answer of the worker is
there, or before it is clear that none can be asked. Then it adds one failure, or writes the
assignment and adds one success. -/
theorem balances_of_recounts {n : Transcript Demand (State ω) (Option SweepReport)}
    (h : c.Recounts s n) (hmetrics : s.metrics = {}) (hjournal : s.journal = []) :
    c.Balances n := by
  obtain ⟨hsum, hcounts⟩ := h.settled (μ := tally) (P := Demand.Counts c)
    (fun t u htu => by
      funext k
      cases k <;> simp [tally, htu.1, htu.2])
    (fun d t => d.accrues c t)
  have hcounted : ∀ e ∈ n.errands, e.IsCounted c := fun e he => Errand.isCounted (hcounts e he)
  have hstart : ∀ k, s.tally k = 0 := by
    intro k
    cases k <;> simp [tally, hmetrics, hjournal]
  have hstate : ∀ k, n.state.tally k = (n.errands.map fun e => e.added tally k).sum := by
    intro k
    rw [hsum k, hstart k, Nat.zero_add]
  obtain ⟨hevicted, hfailures, hsubmissions⟩ := sums_of_isCounted hcounted
  rw [← hstate .evicted] at hevicted
  rw [← hstate .healthCheckFailures, ← hstate .unsent] at hfailures
  rw [← hstate .dispatched, ← hstate .dispatchFailures] at hsubmissions
  exact {
    evicted := hevicted
    healthCheckFailures := hfailures
    probes := fun e he => (hcounted e he).probes
    submissions := hsubmissions
    share := fun e he => (hcounted e he).share
    unreturned := fun e he => (hcounted e he).unreturned }

/-- The stores of a configuration do not crash, whichever of their calls fail. -/
lemma isSteady_of_stores {config : Config} {c : Scheduler (Faulty Site)}
    (hc : c.stores = (Site.stores config).withFaults) : c.IsSteady := by
  have hreports : ∀ {α : Type} {q : Query (Faulty Site) α}, q.Reports →
      ∀ w, (q w).1 ≠ .error .crashed := by
    intro α q hq w hcrashed
    obtain ⟨e, he, -⟩ := hq w _ hcrashed
    exact absurd he (by simp)
  exact {
    update := fun t => hreports (Query.reports_map_iff.mp (reports_tasks hc (.update t)))
    remove := fun id => hreports (Query.reports_map_iff.mp (reports_tasks hc (.remove id)))
    ids := hreports (reports_listWorkers hc)
    get := fun id => hreports (reports_getWorker hc id) }

/-- **Over the stores of a configuration** the submissions that are counted are exactly those that
have come back after a record was written and are not lost. -/
theorem Balances.submissions_of_stores {config : Config} {c : Scheduler (Faulty Site)}
    (hc : c.stores = (Site.stores config).withFaults)
    {n : Transcript Demand (State (Faulty Site)) (Option SweepReport)} (h : c.Balances n) :
    n.state.metrics.dispatched + n.state.metrics.dispatchFailures +
        n.errands.countP (fun e => e.isLost c) =
      n.errands.countP fun e => e.isRecorded c && e.hasReturned := by
  have hzero : (n.errands.map fun e =>
      e.unreturned .dispatched + e.unreturned .dispatchFailures).sum = 0 := by
    refine List.sum_eq_zero fun x hx => ?_
    obtain ⟨e, he, rfl⟩ := List.mem_map.mp hx
    exact (h.unreturned e he).resolve_right fun hcrashed => hcrashed.2 (isSteady_of_stores hc)
  rw [h.submissions, hzero, Nat.add_zero]

/-! ## A small system -/

/-- The state in which nothing has happened yet, but some calls of the stores are going to fail. -/
def initialWithRules (rules : List FaultRule) : State (Faulty Site) :=
  { initialFaulty with world := ⟨initial.world, rules, []⟩ }

/-- The transcript when a worker has registered, a task has been submitted, and the worker has taken
it. -/
def accepted (rules : List FaultRule) : Transcript Demand (State (Faulty Site))
    (Option SweepReport) :=
  (((⟨initialWithRules rules, []⟩ :
      Transcript Demand (State (Faulty Site)) (Option SweepReport)).begin
    (Demand.perform (basic false)) (.manage (.register ⟨"w", "a:1", 3⟩))).begin
    (Demand.perform (basic false)) (.submit newTask)).answer 1 acceptance

/-- The run of the example is one, whatever calls fail in it. -/
lemma recounts_accepted (rules : List FaultRule) :
    (basic false).Recounts (initialWithRules rules) (accepted rules) :=
  ((Recounts.refl.begin _).begin _).answer 1 acceptance

/-- The same, and then the worker does not answer when a sweep checks its health. -/
def unansweredCheck : Transcript Demand (State (Faulty Site)) (Option SweepReport) :=
  ((accepted []).begin (Demand.perform (basic false)) (.manage .sweep)).answer 2 .unanswered

end Scheduler

/-- A task that a worker took, a health check that failed, and an eviction that was reported. -/
theorem balances_unanswered_check :
    (Scheduler.initialWithRules []).metrics = {} ∧ (Scheduler.initialWithRules []).journal = [] ∧
      (Scheduler.basic false).Recounts (Scheduler.initialWithRules []) Scheduler.unansweredCheck ∧
      (Scheduler.basic false).Balances Scheduler.unansweredCheck ∧
      (∀ e ∈ Scheduler.unansweredCheck.errands, e.hasReturned = true) ∧
      Scheduler.unansweredCheck.state.metrics = ⟨1, 0, 1, 1⟩ := by
  have hrecounts : (Scheduler.basic false).Recounts (Scheduler.initialWithRules [])
      Scheduler.unansweredCheck :=
    ((Scheduler.recounts_accepted []).begin (.manage .sweep)).answer 2 .unanswered
  exact ⟨rfl, rfl, hrecounts, Scheduler.balances_of_recounts hrecounts rfl rfl, by decide +kernel,
    by decide +kernel⟩

/-- If the assignment cannot be written, a submission comes back after the record of its task was
written, and none of the counters has changed. -/
theorem lost_submission_not_counted :
    let n := Scheduler.accepted [⟨.updateTask, none, .unavailable, 0, none⟩]
    (Scheduler.basic false).Recounts
        (Scheduler.initialWithRules [⟨.updateTask, none, .unavailable, 0, none⟩]) n ∧
      (∀ e ∈ n.errands, e.hasReturned = true) ∧
      n.errands.countP (fun e => e.isRecorded (Scheduler.basic false) && e.hasReturned) = 1 ∧
      n.state.metrics.dispatched + n.state.metrics.dispatchFailures = 0 :=
  ⟨Scheduler.recounts_accepted _, by decide +kernel, by decide +kernel, by decide +kernel⟩

end ConversionScheduler
