/-!
# Shutting down

Whoever wants to know about the end subscribes to it. The signal goes through a channel, which is
closed as soon as the signal is in it: a receiver takes the signals that were sent after it had
subscribed, one after the other, and then finds the channel closed. Those who subscribe only after
the end are given a channel of their own, which holds the signal and is closed already.

The channel through which the signal will go is kept in a cell that a manager shares with all of its
clones. It is empty once the signal has been given, so that nobody can give it again.

## Main definitions

* `Shutdown.Channel`, `Shutdown.Receiver`, `Shutdown.Waiter` — who can find out about the end.
* `Shutdown` — the channels, the cell, and those who have subscribed.
* `Shutdown.trigger`, `Shutdown.triggered` — the end.
* `Shutdown.subscribe`, `Shutdown.receive` — looking for the signal.
* `Shutdown.wait`, `Shutdown.look` — waiting for it.
-/

namespace ConversionScheduler

namespace Shutdown

/-- What a receiver finds. -/
inductive Receipt
  | empty
  | signal
  | closed
deriving DecidableEq

/-- A channel: the number of signals that were sent, and whether there is still a sender. -/
structure Channel where
  sent : Nat := 0
  isOpen : Bool := true
deriving DecidableEq, Inhabited

/-- Sends a signal, and is closed, since its sender is not needed any more. -/
def Channel.finish (c : Channel) : Channel := ⟨c.sent + 1, false⟩

/-- A receiver of the channel with a number. It has passed some of the signals. -/
structure Receiver where
  channel : Nat
  passed : Nat
deriving DecidableEq

/-- Takes the next signal out of a channel, if there is one. -/
def Receiver.take (r : Receiver) (c : Channel) : Receipt × Receiver :=
  if r.passed < c.sent then (.signal, { r with passed := r.passed + 1 })
  else (if c.isOpen then .empty else .closed, r)

/-- Somebody who waits for the signal. A waiter subscribes when it runs for the first time. -/
inductive Waiter
  | unstarted
  | waiting (r : Receiver)
  | released
deriving DecidableEq

end Shutdown

/-- The channels, the cell with the number of the one through which the signal will go, and those
who have subscribed, or wait, in the order in which they came. -/
structure Shutdown where
  channels : List Shutdown.Channel := [{}]
  cell : Option Nat := some 0
  receivers : List Shutdown.Receiver := []
  waiters : List Shutdown.Waiter := []
deriving DecidableEq, Inhabited

namespace Shutdown

/-- The channel with a number. -/
def channel (s : Shutdown) (k : Nat) : Channel := s.channels[k]?.getD default

/-- Whether the signal was given. -/
def triggered (s : Shutdown) : Bool := s.cell.isNone

/-- Gives the signal, unless it was given. -/
def trigger (s : Shutdown) : Shutdown :=
  match s.cell with
  | none => s
  | some k => { s with channels := s.channels.modify k Channel.finish, cell := none }

/-- A new receiver. Once the signal was given, it has a channel of its own, in which the signal
is. -/
def connect (s : Shutdown) : Receiver × Shutdown :=
  match s.cell with
  | some k => (⟨k, (s.channel k).sent⟩, s)
  | none =>
    (⟨s.channels.length, 0⟩, { s with channels := s.channels ++ [Channel.finish {}] })

/-- Adds a receiver and gives its number. -/
def subscribe (s : Shutdown) : Nat × Shutdown :=
  let (r, s) := s.connect
  (s.receivers.length, { s with receivers := s.receivers ++ [r] })

/-- Lets a receiver look for the signal. In the program a receiver is held by whoever subscribed, so
what is answered here for a number that nobody was given has no counterpart there. -/
def receive (s : Shutdown) (n : Nat) : Receipt × Shutdown :=
  match s.receivers[n]? with
  | none => (if s.triggered then .closed else .empty, s)
  | some r =>
    let (receipt, r) := r.take (s.channel r.channel)
    (receipt, { s with receivers := s.receivers.set n r })

/-- Adds a waiter and gives its number. -/
def wait (s : Shutdown) : Nat × Shutdown :=
  (s.waiters.length, { s with waiters := s.waiters ++ [.unstarted] })

/-- Lets a waiter with a receiver go on: it is released by whatever it finds. -/
def goOn (s : Shutdown) (n : Nat) (r : Receiver) : Shutdown :=
  let (receipt, r) := r.take (s.channel r.channel)
  { s with waiters := s.waiters.set n (if receipt = .empty then .waiting r else .released) }

/-- Lets a waiter go on. -/
def poll (s : Shutdown) (n : Nat) : Shutdown :=
  match s.waiters[n]? with
  | some .unstarted => s.connect.2.goOn n s.connect.1
  | some (.waiting r) => s.goOn n r
  | some .released | none => s

/-- Lets a waiter go on, and tells whether it still has to wait. -/
def look (s : Shutdown) (n : Nat) : Bool × Shutdown :=
  let s := s.poll n
  (match s.waiters[n]? with
    | some .released | none => false
    | some _ => true, s)

/-- Whether somebody who begins to wait now has to. -/
def isPending (s : Shutdown) : Bool := (s.wait.2.look s.wait.1).1

end Shutdown

end ConversionScheduler
