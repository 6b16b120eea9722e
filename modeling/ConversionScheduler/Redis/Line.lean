import ConversionScheduler.Redis.Dialogue
/-!
# The line to the server

A line carries blocks to a server and replies back. It notes what it carried, and it can be told to
answer some commands itself, or to fall silent.

## Main definitions

* `Redis.ScriptedReply`, `Redis.Line` — what is answered by the line itself, and its state.
* `Redis.Line.exchange` — one block and its reply.
-/

namespace ConversionScheduler.Redis

/-- A reply to the next commands of a name, after `skip` of them and as often as `times` says. -/
structure ScriptedReply where
  command : String
  /-- The reply; without one the line falls silent for good. -/
  reply : Option Reply
  skip : Nat
  times : Nat

/-- A line to a server. -/
structure Line where
  server : Server := .empty
  /-- Whether anybody is at the other end. -/
  reachable : Bool := true
  script : List ScriptedReply := []
  silent : Bool := false
  /-- The commands that were carried, the last one first. -/
  sent : List (List String) := []

namespace Line

/-- A line on which nothing has happened yet. -/
instance : Inhabited Line := ⟨{}⟩

/-- Looks for a scripted reply to a command. -/
def scripted (name : String) : List ScriptedReply → Option (Option Reply) × List ScriptedReply
  | [] => (none, [])
  | r :: rest =>
    if r.command.toUpper = name ∧ 0 < r.times then
      if 0 < r.skip then
        let (found, rest') := scripted name rest
        (found, { r with skip := r.skip - 1 } :: rest')
      else (some r.reply, { r with times := r.times - 1 } :: rest)
    else
      let (found, rest') := scripted name rest
      (found, r :: rest')

/-- Carries the words of a command. The result is the scripted reply, if there is one. -/
def carry (words : List String) (l : Line) : Option (Option Reply) × Line :=
  let (found, script) := scripted (words.headD "").toUpper l.script
  let l := { l with script := script, sent := words :: l.sent }
  match found with
  | some none => (some none, { l with silent := true })
  | _ => (found, l)

/-- Carries one command. -/
def single (c : Command) (l : Line) : Option Reply × Line :=
  if l.silent then (none, l)
  else
    match l.carry c.words with
    | (some r, l) => (r, l)
    | (none, l) =>
      let (r, server) := l.server.execute c
      (some r, { l with server := server })

/-- Carries commands one after the other and collects the replies. -/
def several : List Command → Line → List Reply × Line
  | [], l => ([], l)
  | c :: rest, l =>
    let (r, l) := l.single c
    let (rs, l) := several rest l
    (r.toList ++ rs, l)

/-- Carries a block. A transaction is framed by `MULTI` and `EXEC`; if the line answers the `EXEC`
itself the server has done nothing. -/
def exchange (b : Block) (l : Line) : Option Reply × Line :=
  match b with
  | .single c => l.single c
  | .atomic cs =>
    if l.silent then (none, l)
    else
      let (opening, l₁) := l.carry ["MULTI"]
      let (rs, l₂) := several cs l₁
      let (closing, l₃) := if l₂.silent then (none, l₂) else l₂.carry ["EXEC"]
      let l₃ := if closing.isSome then { l₃ with server := l.server } else l₃
      let replies := ([opening, closing].filterMap id).filterMap id ++ rs
      (if l₃.silent then none else some (.list replies), l₃)

end Line

end ConversionScheduler.Redis
