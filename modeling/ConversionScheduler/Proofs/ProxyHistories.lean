import ConversionScheduler.Proofs.Dispatches
import Mathlib.Data.List.Induction
/-!
# What a proxy remembers

Three kinds of calls share the error count of a proxy: a health check that fails adds to it, and a
call of any kind that succeeds sets it back. What a proxy remembers of its history is therefore
short: how many health checks failed since it last heard something good, and what the last health
check that succeeded brought. A dispatch and the status of a task can fail as often as they like.

Whether a call succeeds is decided in stages: there has to be a URL to which a request can be
sent, an answer, all of it, the right status, and a body that can be read. The first stage that
fails gives the error.

## Main definitions

* `Call.alone` — a call with nothing in between its request and the outcome.
* `Proxy.Use`, `Proxy.Reply` — what can be asked of a proxy, and what it replies.
* `Proxy.history` — the replies to a sequence of uses, and the proxy after it.
* `Proxy.failuresSince`, `Proxy.latest?` — what a history comes to.
* `Proxy.Reads` — in which stage a call fails, and with which error.

## Main results

* `Proxy.alone_cases_of_isService`, `Proxy.alone_checkStatus_cases` — what the calls do to a proxy.
* `Proxy.isSummary_history` — the proxy after any history.
* `Proxy.reads_taskStatus`, `Proxy.reads_checkStatus` — when the calls that read an answer succeed.
* `Proxy.history_summary` — all of it.
-/

namespace ConversionScheduler

variable {α : Type}

/-- A call on a proxy that is by itself: whatever request there is has the given outcome, and
nothing happens to the proxy in the meantime. -/
def Call.alone (c : Call α) (o : Http.Outcome) (p : Proxy) : Except Failure α × Proxy :=
  (c.run id (fun q _ => q) p).run fun _ => o

/-- A call whose request could be sent settles with its outcome. -/
lemma Call.alone_of_request {c : Call α} {r : Http.Request} (h : c.request = .ok r)
    (o : Http.Outcome) (p : Proxy) :
    c.alone o p = ((c.settle r o p).1.mapError .reported, (c.settle r o p).2) := by
  unfold alone run
  rw [h]
  rfl

/-- A call without a request settles with the fault that there was. -/
lemma Call.alone_of_fault {c : Call α} {fault : TransportFault} (h : c.request = .error fault)
    (o : Http.Outcome) (p : Proxy) :
    c.alone o p =
      ((c.settleUnsent fault p).1.mapError .reported, (c.settleUnsent fault p).2) := by
  unfold alone run
  rw [h]
  rfl

/-- A call ends with what follows from the body of an answer, or from there being none. -/
lemma Call.exists_alone_eq (c : Call α) (o : Http.Outcome) (p : Proxy) :
    ∃ body, c.alone o p = ((c.finish body p).1.mapError .reported, (c.finish body p).2) := by
  cases h : c.request with
  | error fault => exact ⟨_, c.alone_of_fault h o p⟩
  | ok r => exact ⟨_, c.alone_of_request h o p⟩

namespace Proxy

variable {p : Proxy} {o : Http.Outcome}

/-! ## What each call does -/

/-- A service that fails leaves the proxy as it is, and one that succeeds resets the count. -/
lemma alone_cases_of_isService {c : Call α} (hc : Manager.IsService c) (o : Http.Outcome)
    (p : Proxy) :
    (∃ e, c.alone o p = (.error e, p)) ∨ ∃ a, c.alone o p = (.ok a, p.resetErrors) := by
  obtain ⟨body, h⟩ := c.exists_alone_eq o p
  rw [h]
  obtain ⟨e, hfinish⟩ | ⟨a, hfinish⟩ := hc body p
  · rw [hfinish]
    exact .inl ⟨.reported e, rfl⟩
  · rw [hfinish]
    exact .inr ⟨a, rfl⟩

/-- A service that fails leaves the proxy as it was. -/
lemma alone_eq_self_of_isService {c : Call α} (hc : Manager.IsService c) {o : Http.Outcome}
    {e : Failure} (h : (c.alone o p).1 = .error e) : (c.alone o p).2 = p := by
  obtain ⟨e', hcall⟩ | ⟨a, hcall⟩ := alone_cases_of_isService hc o p
  · rw [hcall]
  · rw [hcall] at h
    exact absurd h (by simp)

/-- A health check that fails is counted, and one that succeeds resets the count and is kept. -/
lemma alone_checkStatus_cases (p : Proxy) (o : Http.Outcome) :
    (∃ e, p.checkStatus.alone o p = (.error e, p.countError)) ∨
      ∃ status, p.checkStatus.alone o p =
        (.ok status, { p.resetErrors with status := status }) := by
  obtain ⟨body, h⟩ := p.checkStatus.exists_alone_eq o p
  obtain ⟨outcome, hfinish⟩ := Manager.finish_checkStatus p p body
  rw [h, hfinish]
  cases outcome with
  | error e => exact .inl ⟨_, rfl⟩
  | ok status => exact .inr ⟨_, rfl⟩

/-! ## Histories -/

/-- What can be asked of a proxy. -/
inductive Use
  | dispatch (t : Task)
  | taskStatus (remoteId : String)
  | checkStatus
  | reset

/-- What it replies. -/
inductive Reply
  | dispatch (result : Except Failure Task)
  | taskStatus (result : Except Failure WorkerReport)
  | checkStatus (result : Except Failure WorkerStatus)
  | reset

namespace Reply

/-- Whether something good came of it: a call that succeeded, or a reset. -/
def isGood : Reply → Bool
  | dispatch result => result.isOk
  | taskStatus result => result.isOk
  | checkStatus result => result.isOk
  | reset => true

/-- Whether a health check failed. -/
def isFailedCheck : Reply → Bool
  | checkStatus (.error _) => true
  | _ => false

/-- What a health check brought, if it succeeded. -/
def status? : Reply → Option WorkerStatus
  | checkStatus (.ok status) => some status
  | _ => none

end Reply

/-- Uses a proxy once. A request has the outcome `o`. -/
def use (p : Proxy) (o : Http.Outcome) : Use → Reply × Proxy
  | .dispatch t => ((p.dispatch t).alone o p).map Reply.dispatch fun q => q
  | .taskStatus remoteId => ((p.taskStatus remoteId).alone o p).map Reply.taskStatus fun q => q
  | .checkStatus => (p.checkStatus.alone o p).map Reply.checkStatus fun q => q
  | .reset => (.reset, p.resetErrors)

/-- Uses a proxy again and again, each time with the outcome that is given, and collects the
replies. -/
def history (p : Proxy) (uses : List (Use × Http.Outcome)) : List Reply × Proxy :=
  uses.foldl (fun h u => (h.2.use u.2 u.1).map (fun reply => h.1 ++ [reply]) fun q => q) ([], p)

/-- How many health checks failed since the last good reply. -/
def failuresSince (replies : List Reply) : Nat :=
  (replies.reverse.takeWhile (!·.isGood)).countP (·.isFailedCheck)

/-- What the last health check that succeeded brought. -/
def latest? (replies : List Reply) : Option WorkerStatus :=
  (replies.filterMap Reply.status?).getLast?

/-- One more reply resets the count, adds to it, or leaves it. -/
lemma failuresSince_concat (replies : List Reply) (reply : Reply) :
    failuresSince (replies ++ [reply]) =
      if reply.isGood then 0 else failuresSince replies + if reply.isFailedCheck then 1 else 0 := by
  unfold failuresSince
  rw [List.reverse_append, List.reverse_singleton, List.singleton_append, List.takeWhile_cons]
  cases reply.isGood with
  | true => rfl
  | false => exact List.countP_cons

/-- One more reply brings a new status or leaves the one there was. -/
lemma latest?_concat (replies : List Reply) (reply : Reply) :
    latest? (replies ++ [reply]) = reply.status?.or (latest? replies) := by
  unfold latest?
  rw [List.filterMap_append]
  cases h : reply.status? <;> simp [h]

/-- There are no more failures than replies. -/
lemma failuresSince_le (replies : List Reply) : failuresSince replies ≤ replies.length :=
  calc failuresSince replies
      ≤ (replies.reverse.takeWhile (!·.isGood)).length := List.countP_le_length
    _ ≤ replies.reverse.length := (List.takeWhile_sublist _).length_le
    _ = replies.length := List.length_reverse

/-- A proxy has in mind what its history comes to. -/
structure IsSummary (replies : List Reply) (p : Proxy) : Prop where
  errorCount : p.errorCount.toNat = failuresSince replies
  status : p.status = (latest? replies).getD {}

/-- A new proxy has nothing in mind. -/
lemma isSummary_ofRecord (r : WorkerRecord) : IsSummary [] (ofRecord r) := ⟨rfl, rfl⟩

variable {replies : List Reply} {reply : Reply}

/-- After a good reply that brings no status, the count is reset. -/
lemma IsSummary.reset (h : IsSummary replies p) (hgood : reply.isGood = true)
    (hstatus : reply.status? = none) : IsSummary (replies ++ [reply]) p.resetErrors where
  errorCount := by
    rw [failuresSince_concat, hgood]
    rfl
  status := by
    rw [latest?_concat, hstatus]
    exact h.status

/-- A reply that is not good and brings no status changes nothing, unless a health check failed. -/
lemma IsSummary.same (h : IsSummary replies p) (hgood : reply.isGood = false)
    (hstatus : reply.status? = none) (hcheck : reply.isFailedCheck = false) :
    IsSummary (replies ++ [reply]) p where
  errorCount := by
    rw [failuresSince_concat, hgood, hcheck]
    exact h.errorCount
  status := by
    rw [latest?_concat, hstatus]
    exact h.status

/-- A health check that failed is counted, as long as the count fits. -/
lemma IsSummary.countError (h : IsSummary replies p) (hsize : replies.length + 1 < UInt32.size)
    (e : Failure) : IsSummary (replies ++ [.checkStatus (.error e)]) p.countError where
  errorCount := by
    have hle := failuresSince_le replies
    show (p.errorCount + 1).toNat = _
    rw [failuresSince_concat, UInt32.toNat_add, h.errorCount]
    exact Nat.mod_eq_of_lt (show failuresSince replies + 1 < UInt32.size by omega)
  status := by
    rw [latest?_concat]
    exact h.status

/-- A health check that succeeded resets the count, and its status is the latest. -/
lemma IsSummary.keep (replies : List Reply) (p : Proxy) (status : WorkerStatus) :
    IsSummary (replies ++ [.checkStatus (.ok status)]) { p.resetErrors with status := status } where
  errorCount := by
    rw [failuresSince_concat]
    rfl
  status := by
    rw [latest?_concat]
    rfl

/-- One more use.

**Proof sketch.** Cases on the use and on whether it succeeds. A failing health check counts one
error more, which does not wrap round yet; any other success resets the errors, and any other
failure changes nothing. -/
lemma IsSummary.use (h : IsSummary replies p) (hsize : replies.length + 1 < UInt32.size) (u : Use)
    (o : Http.Outcome) : IsSummary (replies ++ [(p.use o u).1]) (p.use o u).2 := by
  cases u with
  | dispatch t =>
    obtain ⟨e, hcall⟩ | ⟨t', hcall⟩ := alone_cases_of_isService (Manager.isService_dispatch p t) o p
    · rw [Proxy.use, hcall]
      exact h.same rfl rfl rfl
    · rw [Proxy.use, hcall]
      exact h.reset rfl rfl
  | taskStatus remoteId =>
    obtain ⟨e, hcall⟩ | ⟨report, hcall⟩ := alone_cases_of_isService
      (Manager.isService_taskStatus p remoteId) o p
    · rw [Proxy.use, hcall]
      exact h.same rfl rfl rfl
    · rw [Proxy.use, hcall]
      exact h.reset rfl rfl
  | checkStatus =>
    obtain ⟨e, hcall⟩ | ⟨status, hcall⟩ := p.alone_checkStatus_cases o
    · rw [Proxy.use, hcall]
      exact h.countError hsize e
    · rw [Proxy.use, hcall]
      exact .keep replies p status
  | reset => exact h.reset rfl rfl

/-- One more use adds its reply at the end. -/
lemma history_concat (p : Proxy) (uses : List (Use × Http.Outcome)) (u : Use × Http.Outcome) :
    p.history (uses ++ [u]) =
      (((p.history uses).2.use u.2 u.1).map (fun reply => (p.history uses).1 ++ [reply])
        fun q => q) := by
  unfold history
  rw [List.foldl_append]
  rfl

/-- Each use has one reply. -/
lemma length_history (p : Proxy) (uses : List (Use × Http.Outcome)) :
    (p.history uses).1.length = uses.length := by
  induction uses using List.reverseRecOn with
  | nil => rfl
  | append_singleton uses u ih =>
    rw [history_concat, List.length_append, List.length_singleton, ← ih]
    exact List.length_append

/-- **The proxy after a history has in mind what the history comes to**, if there are fewer than
`2 ^ 32` uses. -/
theorem isSummary_history (r : WorkerRecord) {uses : List (Use × Http.Outcome)}
    (hsize : uses.length < UInt32.size) :
    IsSummary ((ofRecord r).history uses).1 ((ofRecord r).history uses).2 := by
  induction uses using List.reverseRecOn with
  | nil => exact isSummary_ofRecord r
  | append_singleton uses u ih =>
    rw [List.length_append, List.length_singleton] at hsize
    have h := ih (by omega)
    rw [history_concat]
    exact h.use (by rwa [length_history]) u.1 u.2

/-! ## When a call succeeds -/

/-- There is a URL to which the request can be sent, and the whole of an answer arrives. -/
def Arrives (p : Proxy) (segments : List String) (o : Http.Outcome) (status : Nat)
    (body : List UInt8) : Prop :=
  (∃ url, p.endpoint segments = .ok url ∧ url.isSendable = true) ∧ o = .answered status body true

/-- How a call ends that is to read a value from the body of an answer: with the value, or with the
error of the first stage that fails. -/
structure Reads (p : Proxy) (segments : List String) (read : Json.Cursor → Option α)
    (o : Http.Outcome) (result : Except Failure α) : Prop where
  ok_iff : ∀ a, result = .ok a ↔
    ∃ body, p.Arrives segments o 200 body ∧ Json.decodeOctets? read body = some a
  transport : (∀ status body, ¬ p.Arrives segments o status body) →
    ∃ fault, result = .error (.reported (.statusCheckFailure ⟨p.id, .transport fault⟩))
  rejected : ∀ status body, p.Arrives segments o status body → status ≠ 200 →
    result = .error (.reported (.statusCheckFailure ⟨p.id, .rejected status (Utf8.lossy body)⟩))
  malformed : ∀ body, p.Arrives segments o 200 body → Json.decodeOctets? read body = none →
    ∃ fault, result = .error (.reported (.statusCheckFailure ⟨p.id, .malformed fault⟩))

/-- What a call without a body has to go on. -/
def received (p : Proxy) (segments : List String) (o : Http.Outcome) :
    Except CallFault (List UInt8) :=
  match p.request .get segments none with
  | .error fault => .error (.transport fault)
  | .ok r => answer r.url o

variable {segments : List String} {status : Nat} {body : List UInt8}

/-- An answer that arrives counts if its status is 200, and is a rejection otherwise. -/
lemma received_of_arrives (h : p.Arrives segments o status body) :
    p.received segments o =
      if status = 200 then .ok body else .error (.rejected status (Utf8.lossy body)) := by
  obtain ⟨⟨url, hurl, hsend⟩, rfl⟩ := h
  unfold received
  rw [request_eq_ok_iff.mpr ⟨url, hurl, hsend, rfl⟩]
  rfl

/-- If no answer arrives, that is a fault of the transport. -/
lemma received_of_not_arrives (h : ∀ status body, ¬ p.Arrives segments o status body) :
    ∃ fault, p.received segments o = .error (.transport fault) := by
  unfold received
  cases hsent : p.request .get segments none with
  | error fault => exact ⟨fault, rfl⟩
  | ok r =>
    obtain ⟨url, hurl, hsend, rfl⟩ := request_eq_ok_iff.mp hsent
    rcases o with _ | ⟨status, body, _ | _⟩
    · exact ⟨_, rfl⟩
    · exact ⟨_, rfl⟩
    · exact absurd ⟨⟨url, hurl, hsend⟩, rfl⟩ (h status body)

/-- There is a body to be read just if an answer with status 200 arrives. -/
lemma received_eq_ok_iff :
    p.received segments o = .ok body ↔ p.Arrives segments o 200 body := by
  constructor
  · intro h
    by_cases harrives : ∃ status body, p.Arrives segments o status body
    · obtain ⟨status, body', harrives⟩ := harrives
      rw [received_of_arrives harrives] at h
      split at h
      · rename_i hstatus
        rwa [← Except.ok.inj h, ← hstatus]
      · exact absurd h (by simp)
    · obtain ⟨fault, hfault⟩ := received_of_not_arrives fun status body h =>
        harrives ⟨status, body, h⟩
      exact absurd (hfault.symm.trans h) (by simp)
  · intro h
    rw [received_of_arrives h, if_pos rfl]

/-- A call without a body ends with what it makes of what was received. -/
lemma alone_eq_finish {c : Call α} (hrequest : c.request = p.request .get segments none)
    (o : Http.Outcome) : (c.alone o p).1 = (c.finish (p.received segments o) p).1.mapError .reported
    := by
  unfold received
  cases hsent : p.request .get segments none with
  | error fault => rw [Call.alone_of_fault (hrequest.trans hsent), Call.settleUnsent]
  | ok r => rw [Call.alone_of_request (hrequest.trans hsent), Call.settle]

/-- A call that only reads the body of an answer goes through the stages one after the other. -/
lemma reads_of_finish {c : Call α} {read : Json.Cursor → Option α}
    (hrequest : c.request = p.request .get segments none)
    (hfinish : ∀ body, (c.finish body p).1 =
      (decoded read body).mapError fun fault => .statusCheckFailure ⟨p.id, fault⟩)
    (o : Http.Outcome) : p.Reads segments read o (c.alone o p).1 where
  ok_iff a := by
    rw [alone_eq_finish hrequest, hfinish,
      ← exists_congr fun body => and_congr_left' received_eq_ok_iff, ← decoded_eq_ok_iff]
    cases decoded read (p.received segments o) <;> simp [Except.mapError]
  transport hnone := by
    obtain ⟨fault, hfault⟩ := received_of_not_arrives hnone
    rw [alone_eq_finish hrequest, hfinish, hfault]
    exact ⟨fault, rfl⟩
  rejected status body harrives hstatus := by
    rw [alone_eq_finish hrequest, hfinish, received_of_arrives harrives, if_neg hstatus]
    rfl
  malformed body harrives hread := by
    rw [alone_eq_finish hrequest, hfinish, received_eq_ok_iff.mpr harrives, decoded, hread]
    exact ⟨_, rfl⟩

/-- **The status of a task is read from the whole body of an answer with status 200.** -/
theorem reads_taskStatus (p : Proxy) (remoteId : String) (o : Http.Outcome) :
    p.Reads ["task", remoteId] WorkerReport.read? o ((p.taskStatus remoteId).alone o p).1 := by
  refine reads_of_finish rfl (fun body => ?_) o
  simp only [taskStatus]
  cases decoded WorkerReport.read? body <;> rfl

/-- **So is the health of a worker.** -/
theorem reads_checkStatus (p : Proxy) (o : Http.Outcome) :
    p.Reads ["executor", "status"] WorkerStatus.read? o (p.checkStatus.alone o p).1 := by
  refine reads_of_finish rfl (fun body => ?_) o
  simp only [checkStatus]
  cases decoded WorkerStatus.read? body <;> rfl

/-! ## Summary -/

/-- **A proxy remembers what its history comes to.** After any sequence of fewer than `2 ^ 32` uses,
with whatever outcomes, the error count is the number of health checks that failed since the last
call that succeeded or the last reset, and the status is what the last health check that succeeded
brought, or the initial one. Dispatches and questions about tasks that fail change nothing. Whether
a question about a task or a health check succeeds, and with which error it fails, is decided by the
first stage that fails.

**Proof sketch.** The summary holds at first and is kept by every use, as long as the count of the
errors cannot wrap round. What a single call comes to is read off its stages. -/
theorem history_summary (r : WorkerRecord) (uses : List (Use × Http.Outcome))
    (hsize : uses.length < UInt32.size) :
    IsSummary ((ofRecord r).history uses).1 ((ofRecord r).history uses).2 ∧
      (∀ (p : Proxy) t o e, ((p.dispatch t).alone o p).1 = .error e →
        ((p.dispatch t).alone o p).2 = p) ∧
      (∀ (p : Proxy) remoteId o e, ((p.taskStatus remoteId).alone o p).1 = .error e →
        ((p.taskStatus remoteId).alone o p).2 = p) ∧
      (∀ (p : Proxy) remoteId o,
        p.Reads ["task", remoteId] WorkerReport.read? o ((p.taskStatus remoteId).alone o p).1) ∧
      ∀ (p : Proxy) o,
        p.Reads ["executor", "status"] WorkerStatus.read? o (p.checkStatus.alone o p).1 := by
  exact ⟨isSummary_history r hsize,
    fun p t _ _ => alone_eq_self_of_isService (Manager.isService_dispatch p t),
    fun p remoteId _ _ => alone_eq_self_of_isService (Manager.isService_taskStatus p remoteId),
    reads_taskStatus, reads_checkStatus⟩

/-- The answer of a worker that is well: `{"is_healthy":true}`. -/
def healthyAnswer : Http.Outcome :=
  .answered 200 [123, 34, 105, 115, 95, 104, 101, 97, 108, 116, 104, 121, 34, 58, 116, 114, 117,
    101, 125] true

/-- A worker that is well between failed health checks: of the three that failed two count, whatever
came of the dispatch in between. -/
theorem history_summary_two_failures :
    let p := ((ofRecord ⟨"w", "a:1", .epoch, 1⟩).history [(.checkStatus, .unanswered),
      (.checkStatus, healthyAnswer), (.checkStatus, .answered 503 [] true),
      (.dispatch (.create "t" "convert" "pdf" .low .null .epoch), .unanswered),
      (.checkStatus, .answered 200 [123] false)]).2
    p.errorCount.toNat = 2 ∧ p.status = { isHealthy := true } := by
  obtain ⟨⟨hcount, hstatus⟩, -⟩ := history_summary ⟨"w", "a:1", .epoch, 1⟩
    [(.checkStatus, .unanswered), (.checkStatus, healthyAnswer),
      (.checkStatus, .answered 503 [] true),
      (.dispatch (.create "t" "convert" "pdf" .low .null .epoch), .unanswered),
      (.checkStatus, .answered 200 [123] false)] (by decide)
  exact ⟨hcount.trans (by decide +kernel), hstatus.trans (by decide +kernel)⟩

end Proxy

end ConversionScheduler
