import ConversionScheduler.Error
import ConversionScheduler.Http
/-!
# Operations that wait

An operation works on a shared state. It runs without interruption until it needs an answer from a
worker; while it waits, other operations may change the state, and it goes on from whatever state
it then finds. An operation is therefore a tree: a result, or a request together with what is to be
done for each outcome in each state.

Time is part of the state, so it goes on while an operation waits and stands still while one runs:
no time passes between two calls of a store that an operation makes without waiting in between.

## Main definitions

* `Act` — an operation that has been started: its result, or where it waits.
* `Operation` — an operation; its monad runs one after the other.
* `Operation.send`, `Operation.attempt` — waiting for an answer, and looking at a failure.
-/

namespace ConversionScheduler

/-- An operation that has been started: it has a result, or it waits for an answer to a request. -/
inductive Act (σ α : Type)
  | finished (result : α) (state : σ)
  | waiting (request : Http.Request) (state : σ) (resume : Http.Outcome → σ → Act σ α)

namespace Act

variable {σ α β : Type}

/-- Goes on with `f` once there is a result. -/
def andThen : Act σ α → (α → σ → Act σ β) → Act σ β
  | finished a s, f => f a s
  | waiting r s k, f => waiting r s fun o s' => (k o s').andThen f

/-- Runs to the end, with nobody else in between. The outcome of each request comes from
`respond`. -/
def run (respond : Http.Request → Http.Outcome) : Act σ α → α × σ
  | finished a s => (a, s)
  | waiting r s k => (k (respond r) s).run respond

end Act

/-- An operation on a shared state. -/
def Operation (σ α : Type) := σ → Act σ (Except Failure α)

namespace Operation

variable {σ α β : Type}

/-- Ends with a result. -/
def done (a : α) : Operation σ α := fun s => .finished (.ok a) s

/-- Ends without a result. -/
def stop (f : Failure) : Operation σ α := fun s => .finished (.error f) s

/-- Ends with an error. -/
def fail (e : Error) : Operation σ α := stop (.reported e)

/-- One operation after the other. A failure ends both. -/
def andThen (x : Operation σ α) (f : α → Operation σ β) : Operation σ β := fun s =>
  (x s).andThen fun r s' =>
    match r with
    | .ok a => f a s'
    | .error e => .finished (.error e) s'

/-- Operations follow one another; the first failure ends them all. -/
instance : Monad (Operation σ) where
  pure := done
  bind := andThen

/-- Looks at the state. -/
def read (f : σ → α) : Operation σ α := fun s => .finished (.ok (f s)) s

/-- Changes the state. -/
def update (f : σ → σ) : Operation σ Unit := fun s => .finished (.ok ()) (f s)

/-- Changes the state in one step and gives what the step gives. -/
def step (f : σ → Except Failure α × σ) : Operation σ α := fun s =>
  .finished (f s).1 (f s).2

/-- Sends a request and waits for what becomes of it. This is one call of the client, and the only
thing that an operation waits for; until the outcome is there, others run and time passes. -/
def send (r : Http.Request) : Operation σ Http.Outcome := fun s =>
  .waiting r s fun o s' => .finished (.ok o) s'

/-- Turns an error into a result. A crash stays one. -/
def attempt (x : Operation σ α) : Operation σ (Except Error α) := fun s =>
  (x s).andThen fun r s' =>
    match r with
    | .ok a => .finished (.ok (.ok a)) s'
    | .error (.reported e) => .finished (.ok (.error e)) s'
    | .error .crashed => .finished (.error .crashed) s'

end Operation

end ConversionScheduler
