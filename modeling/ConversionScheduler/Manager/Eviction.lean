import ConversionScheduler.Manager.Sweep
/-!
# The eviction loop

Sweeps are made by a loop of which there is at most one. It is due one interval after it was
started and from then on one interval after each time that it was due; a loop without an interval
breaks down at once.

## Main definitions

* `Manager.start`, `Manager.stop`, `Manager.isRunning` — the loop.
* `Manager.advance` — what the loop does while time passes.
* `Manager.close` — the end of the loop and of the store.
-/

namespace ConversionScheduler.Manager

variable {ω : Type}

/-- Whether the loop runs. -/
def State.isRunning (s : State ω) : Bool :=
  match s.evictionLoop with
  | some (.due _) => true
  | _ => false

/-- Starts the loop, unless it runs, and tells whether it did. -/
def start (m : Manager ω) (s : State ω) : Bool × State ω :=
  if s.isRunning then (false, s)
  else
    let interval := m.settings.evictionInterval
    (true, { s with evictionLoop := some <|
      if interval.nanos = 0 then .brokenDown else .due ⟨s.timer.nanos + interval.nanos⟩ })

/-- Stops the loop. -/
def stop : Operation (State ω) Unit := Operation.update fun s => { s with evictionLoop := none }

/-- Lets the timers reach a time, unless they are past it. -/
def State.reach (s : State ω) (time : Duration) : State ω :=
  if s.timer.nanos < time.nanos then { s with timer := time } else s

/-- Makes the sweeps that are due until a time, each of them when it is due. A loop in which a
sweep crashes breaks down. -/
def catchUp (m : Manager ω) (target : Duration) : Nat → Operation (State ω) Unit
  | 0 => return ()
  | rounds + 1 => fun s =>
    match s.evictionLoop with
    | some (.due due) =>
      if target.nanos < due.nanos then .finished (.ok ()) s
      else
        let next : Duration := ⟨due.nanos + m.settings.evictionInterval.nanos⟩
        (m.sweep { s.reach due with evictionLoop := some (.due next) }).andThen fun r s' =>
          match r with
          | .error .crashed =>
            .finished (.ok ()) { s' with evictionLoop := s'.evictionLoop.map fun _ => .brokenDown }
          | _ => m.catchUp target rounds s'
    | _ => .finished (.ok ()) s

/-- Lets time pass for the timers. The sweeps that are due in the meantime are at least an interval
apart, and the first of them is not in the past. -/
def advance (m : Manager ω) (d : Duration) : Operation (State ω) Unit := do
  let target ← Operation.read fun s => (⟨s.timer.nanos + d.nanos⟩ : Duration)
  m.catchUp target (d.nanos / m.settings.evictionInterval.nanos + 1)
  Operation.update fun s => s.reach target

/-- Ends the loop and closes the store. -/
def close (m : Manager ω) : Operation (State ω) Unit := do
  stop
  State.query m.workers.close

end ConversionScheduler.Manager
