import ConversionScheduler.Proofs.ProxyHistories
import ConversionScheduler.Store.Faults
/-!
# The verdict on one worker, by itself

What a sweep makes of a worker can be told without the other workers, the caches and the store: from
what is kept about this one worker, which calls of the store about it fail, and how its health check
ends. The function that tells it is the reference for what a sweep does to all of them.

## Main definitions

* `Holding` — what is kept about a worker: its record, its proxy and its weight.
* `Circumstances` — what a worker meets with while it is judged.
* `Judgement` — the verdict, what it leaves, and what it took to reach it.
* `Holding.judge` — the judgement on one worker.
* `Holding.pruned` — what is left after a listing.
* `SweepReport.Counts` — whether a report counts verdicts.

## Main results

* `Holding.judge_of_error` — a worker that could not be judged keeps its record.
* `Holding.judge_of_stale` — a worker that has been silent for too long is not asked.
* `Holding.missing_iff` — when a worker counts as missing.
* `SweepReport.Counts.enter` — a report counts one verdict more.
-/

namespace ConversionScheduler

/-- What is kept about a worker: its record in the store, its cached proxy, and its weight. -/
structure Holding where
  record : Option WorkerRecord
  proxy : Option Proxy
  weight : Option Nat
deriving DecidableEq

/-- What a worker meets with while it is judged: the errors with which the calls of the store about
it fail, if they do, the outcome of a request to it, and the time at which there is one. -/
structure Circumstances where
  reading : Option Error := none
  removal : Option Error := none
  renewal : Option Error := none
  response : Http.Outcome := .unanswered
  time : Timestamp := .epoch

/-- A call of the store, and the error with which it failed, if it did. -/
structure StoreEvent where
  method : StoreMethod
  id : String
  failure : Option Error
deriving DecidableEq

/-- A judgement on a worker: the verdict, what is kept about the worker after it, the calls of the
store that were made, and the request to the worker, if there was one. -/
structure Judgement where
  verdict : Except Error Verdict
  left : Holding
  calls : List StoreEvent := []
  request? : Option Http.Request := none

namespace Holding

/-- Nothing is kept. -/
def nothing : Holding := ⟨none, none, none⟩

/-- A proxy is cached. -/
def cache (h : Holding) (p : Proxy) : Holding := { h with proxy := some p }

/-- The proxy through which a worker is asked: the cached one, or a new one if there is none for
the address in the record. -/
def current (h : Holding) (r : WorkerRecord) : Proxy :=
  match h.proxy with
  | some p => if p.addr = r.addr then p else .ofRecord r
  | none => .ofRecord r

variable (settings : ManagerSettings) (now : Timestamp) (id : String) (r : WorkerRecord)
  (h : Holding) (c : Circumstances)

/-- The worker is evicted. -/
def evict (verdict : Verdict) : Judgement :=
  match c.removal with
  | none => ⟨.ok verdict, nothing, [⟨.removeWorker, id, none⟩], none⟩
  | some e => ⟨.error e, h, [⟨.removeWorker, id, some e⟩], none⟩

/-- The worker is kept, and its record is written back with the present time. -/
def renew : Judgement :=
  let calls := [⟨.heartbeat, id, c.renewal⟩]
  match c.renewal with
  | none => ⟨.ok .kept, { h with record := some (r.touch c.time) }, calls, none⟩
  | some (.workerNotFound _) => ⟨.ok .kept, h, calls, none⟩
  | some e => ⟨.error e, h, calls, none⟩

/-- The worker is kept or evicted, depending on the health check and on its errors. -/
def conclude (errors : Nat) : Except Failure WorkerStatus → Judgement
  | .ok _ => h.renew id r c
  | .error _ =>
    if settings.maxErrorCount ≤ errors then h.evict id c .evictedUnhealthy
    else ⟨.ok .kept, h, [], none⟩

/-- The health of the worker is checked. -/
def check : Judgement :=
  let p := h.current r
  let result := p.checkStatus.alone c.response p
  { (h.cache result.2).conclude settings id r c result.2.errorCount.toNat result.1 with
    request? := p.checkStatus.request.toOption }

/-- The worker, whose record was read, is judged. -/
def appraise : Judgement :=
  if r.isStale now settings.staleThreshold then h.evict id c .evictedStale
  else if settings.healthCheckEnabled then h.check settings id r c
  else ⟨.ok .kept, h, [], none⟩

/-- **The judgement on one worker** as of a given time. -/
def judge : Judgement :=
  let j : Judgement := match c.reading, h.record with
    | some (.workerNotFound _), _ | none, none => ⟨.ok .missing, h, [], none⟩
    | some e, _ => ⟨.error e, h, [], none⟩
    | none, some r => h.appraise settings now id r c
  { j with calls := ⟨.getWorker, id, c.reading⟩ :: j.calls }

/-- The proxy and the weight are forgotten. -/
def forget : Holding := ⟨h.record, none, none⟩

/-- What is left after a listing, unless it fails, if only those that are listed are kept in mind:
workers with a record, and those that are listed in any case. One without a cached proxy is
overlooked. -/
def pruned (extra : Bool) (failure : Option Error) : Holding :=
  if failure.isNone && h.proxy.isSome && !h.record.isSome && !extra then h.forget else h

variable {settings now id r h c} {e : Error} {verdict : Verdict}

/-- Of two proxies, the one cached last is kept. -/
lemma cache_cache (p q : Proxy) : (h.cache p).cache q = h.cache q := rfl

/-- A worker that is listed keeps everything. -/
lemma pruned_eq_self {extra : Bool} (hlisted : h.record.isSome = true ∨ extra = true)
    (failure : Option Error) : h.pruned extra failure = h := by
  unfold pruned
  obtain hrecord | rfl := hlisted
  · simp [hrecord]
  · simp

/-- Where nothing is kept, nothing is left. -/
lemma pruned_nothing (extra : Bool) (failure : Option Error) :
    nothing.pruned extra failure = nothing := by
  simp [pruned, nothing]

/-! ## Workers that could not be judged -/

/-- An eviction that fails changes nothing. -/
lemma evict_of_error (he : (h.evict id c verdict).verdict = .error e) :
    (h.evict id c verdict).left = h := by
  unfold evict at he ⊢
  cases hremoval : c.removal with
  | none =>
    rw [hremoval] at he
    exact absurd he (by simp)
  | some e => rfl

/-- A renewal that fails changes nothing. -/
lemma renew_of_error (he : (h.renew id r c).verdict = .error e) : (h.renew id r c).left = h := by
  unfold renew at he ⊢
  cases hrenewal : c.renewal with
  | none =>
    rw [hrenewal] at he
    exact absurd he (by simp)
  | some e => cases e <;> rfl

/-- If what follows a health check fails, it changes nothing. -/
lemma conclude_of_error {errors : Nat} {result : Except Failure WorkerStatus}
    (he : (h.conclude settings id r c errors result).verdict = .error e) :
    (h.conclude settings id r c errors result).left = h := by
  cases result with
  | ok status => exact renew_of_error he
  | error failure =>
    by_cases hthreshold : settings.maxErrorCount ≤ errors
    · rw [conclude, if_pos hthreshold] at he ⊢
      exact evict_of_error he
    · rw [conclude, if_neg hthreshold] at he
      exact absurd he (by simp)

/-- Whatever is kept about a worker that could not be judged stays, apart from what its health
check, if there was one, does to its proxy. -/
lemma appraise_of_error (he : (h.appraise settings now id r c).verdict = .error e) :
    (h.appraise settings now id r c).left = h ∨
      (h.appraise settings now id r c).left =
        h.cache ((h.current r).checkStatus.alone c.response (h.current r)).2 := by
  by_cases hstale : r.isStale now settings.staleThreshold
  · rw [appraise, if_pos hstale] at he ⊢
    exact .inl (evict_of_error he)
  · by_cases henabled : settings.healthCheckEnabled
    · rw [appraise, if_neg hstale, if_pos henabled] at he ⊢
      exact .inr (conclude_of_error he)
    · rw [appraise, if_neg hstale, if_neg henabled] at he
      exact absurd he (by simp)

/-- **A worker that could not be judged keeps its record, its weight and a cached proxy.** -/
theorem judge_of_error (he : (h.judge settings now id c).verdict = .error e) :
    (h.judge settings now id c).left.record = h.record ∧
      (h.judge settings now id c).left.weight = h.weight ∧
      (h.proxy.isSome = true → (h.judge settings now id c).left.proxy.isSome = true) := by
  unfold judge at he ⊢
  cases hreading : c.reading with
  | some e' => cases e' <;> exact ⟨rfl, rfl, fun hproxy => hproxy⟩
  | none =>
    cases hrecord : h.record with
    | none => exact ⟨hrecord, rfl, fun hproxy => hproxy⟩
    | some r =>
      simp only [hreading, hrecord] at he ⊢
      obtain hleft | hleft := appraise_of_error he
      · rw [hleft]
        exact ⟨hrecord, rfl, fun hproxy => hproxy⟩
      · rw [hleft]
        exact ⟨hrecord, rfl, fun _ => rfl⟩

/-! ## Workers that have been silent -/

/-- An eviction asks nobody. -/
lemma request?_evict : (h.evict id c verdict).request? = none := by
  unfold evict
  cases c.removal <;> rfl

/-- **A worker that has been silent for too long is not asked**, and if its record can be read and
removed, nothing is kept about it. -/
theorem judge_of_stale (hr : h.record = some r) (hstale : r.isStale now settings.staleThreshold) :
    (h.judge settings now id c).request? = none ∧
      (c.reading = none → c.removal = none →
        (h.judge settings now id c).verdict = .ok .evictedStale ∧
          (h.judge settings now id c).left = nothing) := by
  have happraise : h.appraise settings now id r c = h.evict id c .evictedStale := if_pos hstale
  unfold judge
  rw [hr]
  cases hreading : c.reading with
  | some e => cases e <;> exact ⟨rfl, fun h => absurd h (by simp)⟩
  | none =>
    simp only [happraise]
    refine ⟨request?_evict, fun _ hremoval => ?_⟩
    rw [evict, hremoval]
    exact ⟨rfl, rfl⟩

/-! ## Workers that are missing -/

/-- A worker that is evicted is not called missing. -/
lemma verdict_evict_ne_missing (hv : verdict ≠ .missing) :
    (h.evict id c verdict).verdict ≠ .ok .missing := by
  unfold evict
  cases c.removal <;> simp [hv]

/-- Neither is one that is to be renewed, even if its record is gone by then. -/
lemma verdict_renew_ne_missing : (h.renew id r c).verdict ≠ .ok .missing := by
  unfold renew
  cases c.renewal with
  | none => simp
  | some e => cases e <;> simp

/-- A worker whose record was read is not called missing, whatever comes of it. -/
lemma verdict_appraise_ne_missing : (h.appraise settings now id r c).verdict ≠ .ok .missing := by
  unfold appraise check conclude
  split
  · exact verdict_evict_ne_missing (by decide)
  · split
    · dsimp only
      split
      · exact verdict_renew_ne_missing
      · split
        · exact verdict_evict_ne_missing (by decide)
        · simp
    · simp

/-- **A worker counts as missing if and only if there is no record, or the store says so.** -/
theorem missing_iff : (h.judge settings now id c).verdict = .ok .missing ↔
    (c.reading = none ∧ h.record = none) ∨ ∃ id', c.reading = some (.workerNotFound id') := by
  unfold judge
  cases hreading : c.reading with
  | some e => cases e <;> simp
  | none =>
    cases hrecord : h.record with
    | none => simp
    | some r => simp [verdict_appraise_ne_missing]

end Holding

/-! ## Reports -/

namespace SweepReport

/-- Whether a report counts verdicts. -/
structure Counts (report : SweepReport) (verdicts : List (Except Error Verdict)) : Prop where
  examined : report.examined = verdicts.count (.ok .kept) + report.evictedStale +
    report.evictedUnhealthy
  evictedStale : report.evictedStale = verdicts.count (.ok .evictedStale)
  evictedUnhealthy : report.evictedUnhealthy = verdicts.count (.ok .evictedUnhealthy)
  failed : report.failed = verdicts.countP fun verdict => !verdict.isOk
  all : report.examined + report.failed + verdicts.count (.ok .missing) = verdicts.length

/-- The empty report counts no verdicts. -/
lemma counts_nil : ({} : SweepReport).Counts [] := ⟨rfl, rfl, rfl, rfl, rfl⟩

/-- **A report counts one verdict more.** -/
theorem Counts.enter {report : SweepReport} {verdicts : List (Except Error Verdict)}
    (h : report.Counts verdicts) (verdict : Except Error Verdict) :
    (report.enter verdict).Counts (verdicts ++ [verdict]) := by
  obtain ⟨hexamined, hstale, hunhealthy, hfailed, hall⟩ := h
  have hok : ∀ verdict : Verdict, (Except.ok verdict : Except Error Verdict).isOk = true :=
    fun _ => rfl
  have herror : ∀ e : Error, (Except.error e : Except Error Verdict).isOk = false := fun _ => rfl
  rcases verdict with e | _ | _ | _ | _ <;>
    constructor <;> simp [SweepReport.enter, hok, herror] <;> omega

end SweepReport

end ConversionScheduler
