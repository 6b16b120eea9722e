import ConversionScheduler.Json.Printer
import ConversionScheduler.Operation
import ConversionScheduler.Task.Basic
import ConversionScheduler.Text.Quoted
import ConversionScheduler.Worker.Record
/-!
# Talking to a worker

The scheduler keeps a *proxy* for each worker it talks to: the address, how often in a row the
worker failed a health check, and what it last said about itself. A *call* is one request together
with what its outcome does to the proxy and means to the caller.

## Main definitions

* `Proxy` — a worker as the scheduler sees it.
* `Proxy.request` — a request to one of the worker's resources.
* `Proxy.answer` — the body of an answer, which counts only with status 200.
* `Call`, `Call.settle`, `Call.run` — calls, by outcome and as operations.
* `Proxy.dispatch`, `Proxy.taskStatus`, `Proxy.checkStatus` — the three calls.
-/

namespace ConversionScheduler

/-- A worker as the scheduler sees it. -/
structure Proxy where
  id : String
  addr : String
  /-- The health checks that failed since the last success, in 32 bits. -/
  errorCount : UInt32 := 0
  /-- What the last successful health check brought. -/
  status : WorkerStatus := {}
deriving DecidableEq, Inhabited

/-- A call to a worker: the request, if there can be one, and what follows from the body of the
answer or from its failure. -/
structure Call (α : Type) where
  request : Except TransportFault Http.Request
  finish : Except CallFault (List UInt8) → Proxy → Except Error α × Proxy

namespace Proxy

/-- The proxy of a record. -/
def ofRecord (r : WorkerRecord) : Proxy := { id := r.id, addr := r.addr }

/-- Counts a failed health check. -/
def countError (p : Proxy) : Proxy := { p with errorCount := p.errorCount + 1 }

/-- Forgets the failed health checks. -/
def resetErrors (p : Proxy) : Proxy := { p with errorCount := 0 }

/-- A proxy in diagnostic messages. -/
def diagnostic (p : Proxy) : String :=
  "RemoteWorker \x7b id: " ++ quoted p.id ++ ", addr: " ++ quoted p.addr ++ ", error_count: " ++
    Decimal.text p.errorCount.toNat ++ " \x7d"

/-- The URL of a resource of the worker. -/
def endpoint (p : Proxy) (segments : List String) : Except TransportFault Url :=
  match Url.ofAddress? p.addr with
  | .ok url => .ok (url.append segments)
  | .error fault => .error (.badAddress p.addr fault)

/-- A request to a resource of the worker. -/
def request (p : Proxy) (method : Http.Method) (segments : List String) (body : Option String) :
    Except TransportFault Http.Request :=
  match p.endpoint segments with
  | .error fault => .error fault
  | .ok url => if url.isSendable then .ok ⟨method, url, body⟩ else .error (.unsendable url.text)

/-- The body of an answer. It has to be complete, and its status 200. -/
def answer (url : Url) : Http.Outcome → Except CallFault (List UInt8)
  | .unanswered => .error (.transport (.unanswered url.text))
  | .answered status body complete =>
    if !complete then .error (.transport .cutShort)
    else if status = 200 then .ok body
    else .error (.rejected status (Utf8.lossy body))

/-- What JSON text in a body stands for. -/
def decoded {α : Type} (read : Json.Cursor → Option α) :
    Except CallFault (List UInt8) → Except CallFault α
  | .error fault => .error fault
  | .ok body =>
    match Json.decodeOctets? read body with
    | some a => .ok a
    | none => .error (.malformed (.undecodable "undecodable JSON"))

end Proxy

namespace Call

variable {σ α : Type}

/-- The end of a call whose request had the given outcome. -/
def settle (c : Call α) (r : Http.Request) (o : Http.Outcome) (p : Proxy) :
    Except Error α × Proxy :=
  c.finish (Proxy.answer r.url o) p

/-- The end of a call that has no request. -/
def settleUnsent (c : Call α) (fault : TransportFault) (p : Proxy) : Except Error α × Proxy :=
  c.finish (.error (.transport fault)) p

/-- Lets a call end in a state that holds the proxy. -/
def conclude (get : σ → Proxy) (set : Proxy → σ → σ) (f : Proxy → Except Error α × Proxy) :
    Operation σ α :=
  Operation.step fun s =>
    let (result, p) := f (get s)
    (result.mapError Failure.reported, set p s)

/-- Makes a call on behalf of a proxy in the state. -/
def run (get : σ → Proxy) (set : Proxy → σ → σ) (c : Call α) : Operation σ α :=
  match c.request with
  | .error fault => conclude get set (c.settleUnsent fault)
  | .ok r => do
    let o ← Operation.send r
    conclude get set (c.settle r o)

end Call

/-! ## The calls -/

namespace Proxy

/-- The JSON text that asks a worker to take a task. -/
def dispatchBody (t : Task) : String :=
  Json.render (.object [("taskId", .string t.id), ("taskType", .string t.taskType),
    ("taskSubType", .string t.subType), ("taskDetail", t.userDef)])

/-- Reads the id under which a worker took a task. -/
def acknowledgement? (c : Json.Cursor) : Option String := do
  let fs ← Json.dialect.fields? [["task_id", "taskId"]] c
  fs.required "task_id" Json.Cursor.text?

/-- Asks the worker to take a task. The task is assigned to the worker under the id that it
answers with, which must not be empty. -/
def dispatch (p : Proxy) (t : Task) : Call Task where
  request := p.request .post ["task"] (some (dispatchBody t))
  finish body q :=
    match decoded acknowledgement? body with
    | .error fault => (.error (.dispatchFailure ⟨p.id, fault⟩), q)
    | .ok remoteId =>
      if remoteId = "" then
        (.error (.dispatchFailure ⟨p.id, .malformed .missingTaskId⟩), q)
      else
        match t.assign p.id remoteId with
        | .error e => (.error e, q)
        | .ok t' => (.ok t', q.resetErrors)

/-- Asks the worker about a task it took. -/
def taskStatus (p : Proxy) (remoteId : String) : Call WorkerReport where
  request := p.request .get ["task", remoteId] none
  finish body q :=
    match decoded WorkerReport.read? body with
    | .error fault => (.error (.statusCheckFailure ⟨p.id, fault⟩), q)
    | .ok report => (.ok report, q.resetErrors)

/-- Checks the health of the worker. A failure counts, whatever its cause. -/
def checkStatus (p : Proxy) : Call WorkerStatus where
  request := p.request .get ["executor", "status"] none
  finish body q :=
    match decoded WorkerStatus.read? body with
    | .error fault => (.error (.statusCheckFailure ⟨p.id, fault⟩), q.countError)
    | .ok status => (.ok status, { q.resetErrors with status := status })

end Proxy

end ConversionScheduler
