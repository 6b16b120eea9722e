import ConversionScheduler.Redis.Server
/-!
# Dialogues with the server

What a client says next may depend on the reply to what it said before. A *dialogue* is a tree: a
result, or a command or transaction together with what follows each reply. Other clients may come
in wherever a dialogue waits.

## Main definitions

* `Redis.Block` — a command, or a transaction.
* `Redis.Dialogue` — what a client says, reply by reply.
* `Redis.Dialogue.run` — a dialogue with a server, with nobody else in between.
* `Redis.Connection` — the settings of a connection: its names of keys and its patience.
* `Redis.Connection.ask`, `Redis.Connection.transact` — one exchange.
-/

namespace ConversionScheduler.Redis

/-- What is sent at once: a command, or commands that are executed together. -/
inductive Block
  | single (command : Command)
  | atomic (commands : List Command)
deriving DecidableEq

/-- What a client says. No reply at all is `none`. -/
inductive Dialogue (α : Type)
  | done (result : Except Error α)
  | exchange (block : Block) (resume : Option Reply → Dialogue α)

/-- The reply of a server to a block. One failing command spoils a transaction, but is not undone
with it. -/
def Server.respond (s : Server) : Block → Reply × Server
  | .single c => s.execute c
  | .atomic cs =>
    let (rs, s') := s.executeAll cs
    (.list rs, s')

namespace Dialogue

variable {σ α β : Type}

/-- Goes on with `f` once there is a result. -/
def andThen (d : Dialogue α) (f : α → Dialogue β) : Dialogue β :=
  match d with
  | done (.ok a) => f a
  | done (.error e) => done (.error e)
  | exchange b k => exchange b fun r => (k r).andThen f

/-- Dialogues follow one another; the first error ends them all. -/
instance : Monad Dialogue where
  pure a := done (.ok a)
  bind := andThen

/-- Turns an error into a result. -/
def attempt : Dialogue α → Dialogue (Except Error α)
  | done r => done (.ok r)
  | exchange b k => exchange b fun r => (k r).attempt

/-- Runs a dialogue over a line on which blocks are answered. -/
def runOver (line : Block → σ → Option Reply × σ) : Dialogue α → σ → Except Error α × σ
  | done r, s => (r, s)
  | exchange b k, s =>
    let (r, s') := line b s
    (k r).runOver line s'

/-- Runs a dialogue with a server. -/
def run (d : Dialogue α) (s : Server) : Except Error α × Server :=
  d.runOver (fun b s => (some (s.respond b).1, (s.respond b).2)) s

end Dialogue

/-- The settings of a connection. -/
structure Connection where
  /-- What the names of all keys begin with. -/
  namespaceName : String
  timeout : Duration
deriving DecidableEq

namespace Connection

variable {α : Type}

/-- The name of a key. -/
def key (c : Connection) (suffix : String) : String := c.namespaceName ++ ":" ++ suffix

/-- The error of an exchange that the server refused. -/
def refused (during : Exchange) (detail : String) : Error :=
  .storeUnavailable (.refused during detail)

/-- Sends a command and reads its reply. -/
def ask (c : Connection) (command : Command) (read : Reply → Option α) : Dialogue α :=
  .exchange (.single command) fun
    | none => .done (.error (.storeUnavailable (.timedOut .command c.timeout)))
    | some (.error e) => .done (.error (refused .command e))
    | some r =>
      match read r with
      | some a => .done (.ok a)
      | none => .done (.error (refused .command "Response was of incompatible type"))

/-- The first error among the replies to a transaction. -/
def firstError? : Reply → Option String
  | .error e => some e
  | .list rs => rs.findSome? fun
    | .error e => some e
    | _ => none
  | _ => none

/-- Sends a transaction whose replies do not matter, unless one is an error. -/
def transact (c : Connection) (commands : List Command) : Dialogue Unit :=
  .exchange (.atomic commands) fun
    | none => .done (.error (.storeUnavailable (.timedOut .pipeline c.timeout)))
    | some r =>
      match firstError? r with
      | some e => .done (.error (refused .pipeline e))
      | none => .done (.ok ())

/-- Makes sure that the server answers. -/
def ping (c : Connection) : Dialogue Unit := do
  let r ← c.ask .ping Reply.text?
  if r = "PONG" then return () else .done (.error (.storeUnavailable (.oddPing r)))

end Connection

end ConversionScheduler.Redis
