import ConversionScheduler.Shutdown
import Mathlib.Data.List.Induction
import Mathlib.Data.List.TakeWhile
/-!
# Everybody gets the signal once

What a receiver finds depends on what has happened only in this way: whether the signal has been
given, and if so, whether the receiver has looked for it since then. It makes no difference when the
receiver subscribed, although those who come after the end have a channel of their own; nor does it
make one which of the clones of a manager was used, since they share one cell.

## Main definitions

* `Shutdown.Step`, `Shutdown.perform` — what can be done with a manager, its clones and receivers.
* `Shutdown.after`, `Shutdown.answer` — what comes of some steps, and the answer to one more.
* `Shutdown.isOver`, `Shutdown.sinceEnd` — whether the signal was given, and what was done since.
* `Shutdown.IsOpen`, `Shutdown.IsOver` — the states before and after the signal.

## Main results

* `Shutdown.isOpen_perform`, `Shutdown.isOver_perform` — one step.
* `Shutdown.isOpen_after`, `Shutdown.isOver_after` — any number of them.
* `Shutdown.signal_taken_once` — what receivers, waiters and clones find out.
-/

namespace ConversionScheduler.Shutdown

/-! ## Steps -/

/-- What can be done: through one of the clones of a manager, or by a receiver or a waiter. -/
inductive Step
  | subscribe (via : Nat)
  | trigger (via : Nat)
  | ask (via : Nat)
  | receive (n : Nat)
  | wait (via : Nat)
  | look (n : Nat)
deriving DecidableEq

/-- What a step brings. -/
inductive Answer
  | nothing
  | number (n : Nat)
  | truth (b : Bool)
  | receipt (r : Receipt)
deriving DecidableEq

/-- Whether the signal is given in a step. -/
def Step.isTrigger : Step → Bool
  | trigger _ => true
  | _ => false

/-- Performs a step. All clones share the state. -/
def perform (s : Shutdown) : Step → Answer × Shutdown
  | .subscribe _ => (.number s.subscribe.1, s.subscribe.2)
  | .trigger _ => (.nothing, s.trigger)
  | .ask _ => (.truth s.triggered, s)
  | .receive n => (.receipt (s.receive n).1, (s.receive n).2)
  | .wait _ => (.number s.wait.1, s.wait.2)
  | .look n => (.truth (s.look n).1, (s.look n).2)

/-- What comes of a new manager after some steps. -/
def after (steps : List Step) : Shutdown := steps.foldl (fun s x => (s.perform x).2) {}

/-- The answer to a step after some others. -/
def answer (steps : List Step) (x : Step) : Answer := ((after steps).perform x).1

/-- Whether the signal was given in some steps. -/
def isOver (steps : List Step) : Bool := steps.any Step.isTrigger

/-- The last steps, as far as they were made since the signal was given for the first time. -/
def sinceEnd (earlier last : List Step) : List Step :=
  if isOver earlier then last else last.dropWhile fun x => !x.isTrigger

variable {s : Shutdown} {steps earlier last : List Step} {x : Step} {n : Nat}

/-- One more step is performed on what came of the earlier ones. -/
lemma after_concat (steps : List Step) (x : Step) :
    after (steps ++ [x]) = ((after steps).perform x).2 := by
  simp [after]

/-- The signal was given in one of the earlier steps or in the last one. -/
lemma isOver_concat (steps : List Step) (x : Step) :
    isOver (steps ++ [x]) = (isOver steps || x.isTrigger) := by
  simp [isOver]

/-- What comes after the end grows with the steps, from the first signal on.

**Proof sketch.** The end came before all the last steps, among them, with this step or not yet; in
each case the steps since then are counted out. -/
lemma sinceEnd_concat (earlier last : List Step) (x : Step) :
    sinceEnd earlier (last ++ [x]) =
      sinceEnd earlier last ++ if isOver (earlier ++ last ++ [x]) then [x] else [] := by
  unfold sinceEnd
  cases hearlier : isOver earlier with
  | true => simp_all [isOver]
  | false =>
    have hover : isOver (earlier ++ last ++ [x]) = (isOver last || x.isTrigger) := by
      simp_all [isOver]
    rw [hover, if_neg Bool.false_ne_true, if_neg Bool.false_ne_true, List.dropWhile_append]
    cases hlast : isOver last with
    | true =>
      have hne : (last.dropWhile fun x => !x.isTrigger) ≠ [] := by
        simpa [isOver, List.dropWhile_eq_nil_iff] using hlast
      rw [if_neg (by simpa using hne), Bool.true_or, if_pos rfl]
    | false =>
      have hnil : (last.dropWhile fun x => !x.isTrigger) = [] := by
        simpa [isOver, List.dropWhile_eq_nil_iff] using hlast
      rw [hnil]
      cases hx : x.isTrigger <;> simp [hx]

/-! ## Channels and receivers -/

/-- A receiver takes what is in its channel, and nobody else's place changes. -/
lemma receive_eq {r : Receiver} (h : s.receivers[n]? = some r) :
    s.receive n = ((r.take (s.channel r.channel)).1,
      { s with receivers := s.receivers.set n (r.take (s.channel r.channel)).2 }) := by
  simp [receive, h]

/-- Without a receiver of this number nothing happens. -/
lemma receive_of_none (h : s.receivers[n]? = none) : (s.receive n).2 = s := by
  simp [receive, h]

/-- A new receiver: before the end it is at the place of the next signal, after it, it has a new
channel. -/
lemma connect_eq (s : Shutdown) :
    s.connect = match s.cell with
      | some k => (⟨k, (s.channel k).sent⟩, s)
      | none => (⟨s.channels.length, 0⟩, { s with channels := s.channels ++ [⟨1, false⟩] }) := rfl

/-- To connect to a channel does not touch the receivers there are. -/
@[simp]
lemma connect_receivers (s : Shutdown) : s.connect.2.receivers = s.receivers := by
  rw [connect_eq]
  cases s.cell <;> rfl

/-- Nor does it touch the waiters. -/
@[simp]
lemma connect_waiters (s : Shutdown) : s.connect.2.waiters = s.waiters := by
  rw [connect_eq]
  cases s.cell <;> rfl

/-- Whoever subscribes gets the next number and is connected. -/
lemma subscribe_eq (s : Shutdown) :
    s.subscribe = (s.receivers.length,
      { s.connect.2 with receivers := s.receivers ++ [s.connect.1] }) := by
  simp [subscribe]

/-- Only the waiter that goes on changes, and others get its number neither before nor after. -/
lemma poll_frame (s : Shutdown) (n : Nat) :
    (s.poll n).receivers = s.receivers ∧ (s.poll n).waiters.length = s.waiters.length := by
  unfold poll goOn
  split <;> simp

/-! ## States before the end, and after it -/

/-- Whether a state is one before the signal: everybody who has subscribed has passed nothing of the
channel through which the signal will go. -/
structure IsOpen (s : Shutdown) : Prop where
  cell : s.cell = some 0
  channels : s.channels = [{}]
  receivers : ∀ r ∈ s.receivers, r = ⟨0, 0⟩
  waiters : ∀ w ∈ s.waiters, w = .unstarted ∨ w = .waiting ⟨0, 0⟩

/-- Whether there is a closed channel with one signal under a number. -/
def Holds (s : Shutdown) (k : Nat) : Prop := s.channels[k]? = some ⟨1, false⟩

/-- Whether a state is one after the signal: everybody's channel holds it and is closed, and those
who still wait have not passed it. -/
structure IsOver (s : Shutdown) : Prop where
  cell : s.cell = none
  receivers : ∀ r ∈ s.receivers, s.Holds r.channel
  waiters : ∀ r, .waiting r ∈ s.waiters → s.Holds r.channel ∧ r.passed = 0

/-- A new manager is open. -/
lemma isOpen_start : IsOpen {} := ⟨rfl, rfl, by simp, by simp⟩

/-- Before the signal a receiver finds nothing. -/
lemma IsOpen.take (h : s.IsOpen) : Receiver.take ⟨0, 0⟩ (s.channel 0) = (.empty, ⟨0, 0⟩) := by
  have hchannel : s.channel 0 = {} := by rw [Shutdown.channel, h.channels]; rfl
  rw [hchannel]
  rfl

/-- Before the signal everybody is connected to the same channel, which is empty. -/
lemma IsOpen.connect (h : s.IsOpen) : s.connect = (⟨0, 0⟩, s) := by
  have hsent : (s.channel 0).sent = 0 := by rw [Shutdown.channel, h.channels]; rfl
  rw [connect_eq, h.cell]
  simp only [hsent]

/-- A waiter that goes on before the end still has to wait. -/
lemma IsOpen.poll (h : s.IsOpen) (n : Nat) :
    s.poll n = { s with waiters := s.waiters.set n (.waiting ⟨0, 0⟩) } := by
  have hgo : s.goOn n ⟨0, 0⟩ = { s with waiters := s.waiters.set n (.waiting ⟨0, 0⟩) } := by
    simp [Shutdown.goOn, h.take]
  unfold Shutdown.poll
  cases hw : s.waiters[n]? with
  | none => rw [List.set_eq_of_length_le (List.getElem?_eq_none_iff.mp hw)]
  | some w =>
    obtain rfl | rfl := h.waiters w (List.mem_of_getElem? hw)
    · rw [h.connect]
      exact hgo
    · exact hgo

/-- A receiver whose channel holds the signal takes it, unless it has done so before. -/
lemma Holds.take {r : Receiver} (h : s.Holds r.channel) :
    r.take (s.channel r.channel) =
      if r.passed = 0 then (.signal, { r with passed := 1 }) else (.closed, r) := by
  have hchannel : s.channel r.channel = ⟨1, false⟩ := by rw [channel, h]; rfl
  simp only [hchannel, Receiver.take, Nat.lt_one_iff]
  split <;> simp_all

/-- A channel keeps its number and its signal when more channels are made. -/
lemma Holds.append {k : Nat} (h : s.Holds k) (c : Channel) :
    (s.channels ++ [c])[k]? = some ⟨1, false⟩ := by
  rw [List.getElem?_append_left (List.getElem?_eq_some_iff.mp h).1]
  exact h

/-- Whoever comes after the end has a channel that holds the signal. -/
lemma IsOver.connect (h : s.IsOver) :
    s.connect.2.IsOver ∧ s.connect.2.Holds s.connect.1.channel ∧ s.connect.1.passed = 0 := by
  have hrun : s.connect =
      (⟨s.channels.length, 0⟩, { s with channels := s.channels ++ [⟨1, false⟩] }) := by
    rw [connect_eq, h.cell]
  rw [hrun]
  refine ⟨⟨h.cell, fun r hr => (h.receivers r hr).append _, fun r hr => ?_⟩, ?_, rfl⟩
  · exact ⟨(h.waiters r hr).1.append _, (h.waiters r hr).2⟩
  · exact List.getElem?_concat_length

/-- A waiter that goes on after the end is released. -/
lemma IsOver.goOn (h : s.IsOver) {r : Receiver} (hr : s.Holds r.channel) (hpassed : r.passed = 0)
    (n : Nat) :
    (s.goOn n r).IsOver ∧ (s.goOn n r).waiters = s.waiters.set n .released := by
  have hrun : s.goOn n r = { s with waiters := s.waiters.set n .released } := by
    simp [Shutdown.goOn, hr.take, hpassed]
  rw [hrun]
  refine ⟨⟨h.cell, h.receivers, fun r' hr' => ?_⟩, rfl⟩
  obtain hr' | hr' := List.mem_or_eq_of_mem_set hr'
  · exact h.waiters r' hr'
  · exact absurd hr' (by simp)

/-- Once the signal was given, a waiter that is polled is released, and nobody else changes. -/
lemma IsOver.poll (h : s.IsOver) (n : Nat) :
    (s.poll n).IsOver ∧ (s.poll n).waiters = s.waiters.set n .released := by
  unfold Shutdown.poll
  split
  · obtain ⟨hover, hholds, hpassed⟩ := h.connect
    simpa only [connect_waiters] using hover.goOn hholds hpassed n
  · rename_i r hw
    obtain ⟨hholds, hpassed⟩ := h.waiters r (List.mem_of_getElem? hw)
    exact h.goOn hholds hpassed n
  · rename_i hw
    obtain ⟨hn, hw⟩ := List.getElem?_eq_some_iff.mp hw
    exact ⟨h, by rw [← hw, List.set_getElem_self]⟩
  · rename_i hw
    exact ⟨h, (List.set_eq_of_length_le (List.getElem?_eq_none_iff.mp hw)).symm⟩

/-! ## One step -/

/-- **Nothing but the signal ends the time before it.**

**Proof sketch.** Cases on the step. One that adds a receiver or a waiter adds it as it is before
the signal; one that asks a receiver or lets a waiter look finds nothing new, and puts it back. -/
theorem isOpen_perform (h : s.IsOpen) (hx : x.isTrigger = false) : (s.perform x).2.IsOpen := by
  obtain ⟨hcell, hchannels, hreceivers, hwaiters⟩ := id h
  cases x with
  | trigger via => exact absurd hx (by simp [Step.isTrigger])
  | ask via => exact h
  | subscribe via =>
    rw [perform, subscribe_eq, h.connect]
    refine ⟨hcell, hchannels, fun r hr => ?_, hwaiters⟩
    obtain hr | hr := List.mem_append.mp hr
    · exact hreceivers r hr
    · exact List.mem_singleton.mp hr
  | receive n =>
    show (s.receive n).2.IsOpen
    cases hr : s.receivers[n]? with
    | none => rwa [receive_of_none hr]
    | some r =>
      obtain rfl := hreceivers r (List.mem_of_getElem? hr)
      rw [receive_eq hr, h.take]
      refine ⟨hcell, hchannels, fun r hr => ?_, hwaiters⟩
      obtain hr | rfl := List.mem_or_eq_of_mem_set hr
      · exact hreceivers r hr
      · rfl
  | wait via =>
    refine ⟨hcell, hchannels, hreceivers, fun w hw => ?_⟩
    obtain hw | hw := List.mem_append.mp hw
    · exact hwaiters w hw
    · exact .inl (List.mem_singleton.mp hw)
  | look n =>
    show (s.poll n).IsOpen
    rw [h.poll]
    refine ⟨hcell, hchannels, hreceivers, fun w hw => ?_⟩
    obtain hw | rfl := List.mem_or_eq_of_mem_set hw
    · exact hwaiters w hw
    · exact .inr rfl

/-- **The signal goes to everybody who has subscribed.** -/
theorem isOver_trigger (h : s.IsOpen) : s.trigger.IsOver := by
  rw [trigger, h.cell, h.channels]
  refine ⟨rfl, fun r hr => ?_, fun r hr => ?_⟩
  · obtain rfl := h.receivers r hr
    rfl
  · obtain hw | hw := h.waiters _ hr
    · exact absurd hw (by simp)
    · obtain rfl := Waiter.waiting.inj hw
      exact ⟨rfl, rfl⟩

/-- A second signal changes nothing. -/
lemma IsOver.trigger (h : s.IsOver) : s.trigger = s := by
  rw [Shutdown.trigger, h.cell]

/-- **The time after the signal does not end.**

**Proof sketch.** Cases on the step. A receiver or a waiter that comes now has a channel of its own,
which holds the signal; and whoever takes a signal changes no channel, only the place up to which it
has been passed. -/
theorem isOver_perform (h : s.IsOver) (x : Step) : (s.perform x).2.IsOver := by
  cases x with
  | trigger via => rwa [perform, h.trigger]
  | ask via => exact h
  | subscribe via =>
    obtain ⟨hover, hholds, -⟩ := h.connect
    rw [perform, subscribe_eq]
    refine ⟨hover.cell, fun r hr => ?_, hover.waiters⟩
    obtain hr | hr := List.mem_append.mp hr
    · exact hover.receivers r (connect_receivers s ▸ hr)
    · obtain rfl := List.mem_singleton.mp hr
      exact hholds
  | receive n =>
    show (s.receive n).2.IsOver
    cases hr : s.receivers[n]? with
    | none => rwa [receive_of_none hr]
    | some r =>
      have hholds := h.receivers r (List.mem_of_getElem? hr)
      rw [receive_eq hr, hholds.take]
      refine ⟨h.cell, fun r' hr' => ?_, h.waiters⟩
      obtain hr' | rfl := List.mem_or_eq_of_mem_set hr'
      · exact h.receivers r' hr'
      · split <;> exact hholds
  | wait via =>
    refine ⟨h.cell, h.receivers, fun r hr => ?_⟩
    obtain hr | hr := List.mem_append.mp hr
    · exact h.waiters r hr
    · exact absurd (List.mem_singleton.mp hr) (by simp)
  | look n => exact (h.poll n).1

/-! ## Any number of steps -/

/-- As long as the signal has not been given, the state is one before it. -/
theorem isOpen_after (h : isOver steps = false) : (after steps).IsOpen := by
  induction steps using List.reverseRecOn with
  | nil => exact isOpen_start
  | append_singleton steps x ih =>
    rw [isOver_concat, Bool.or_eq_false_iff] at h
    rw [after_concat]
    exact isOpen_perform (ih h.1) h.2

/-- Once the signal has been given, the state is one after it. -/
theorem isOver_after (h : isOver steps = true) : (after steps).IsOver := by
  induction steps using List.reverseRecOn with
  | nil => exact absurd h (by simp [isOver])
  | append_singleton steps x ih =>
    rw [after_concat]
    cases hover : isOver steps with
    | true => exact isOver_perform (ih hover) x
    | false =>
      rw [isOver_concat, hover, Bool.false_or] at h
      cases x with
      | trigger via => exact isOver_trigger (isOpen_after hover)
      | _ => exact absurd h (by simp [Step.isTrigger])

/-- The signal counts as given exactly from the first time on. -/
theorem triggered_after (steps : List Step) : (after steps).triggered = isOver steps := by
  cases h : isOver steps with
  | true => rw [triggered, (isOver_after h).cell]; rfl
  | false => rw [triggered, (isOpen_after h).cell]; rfl

/-! ## One receiver -/

/-- How many signals a receiver has passed. -/
def passed? (s : Shutdown) (n : Nat) : Option Nat := s.receivers[n]?.map Receiver.passed

/-- Nobody but a receiver itself takes a signal out for it. -/
lemma passed?_perform (hn : n < s.receivers.length) (hx : x ≠ .receive n) :
    (s.perform x).2.passed? n = s.passed? n := by
  unfold passed?
  cases x with
  | trigger via =>
    rw [perform, trigger]
    cases s.cell <;> rfl
  | ask via | wait via => rfl
  | subscribe via =>
    rw [perform, subscribe_eq, List.getElem?_append_left hn]
  | receive m =>
    show (s.receive m).2.receivers[n]?.map _ = _
    cases hr : s.receivers[m]? with
    | none => rw [receive_of_none hr]
    | some r =>
      have hne : m ≠ n := fun h => hx (by rw [h])
      rw [receive_eq hr, List.getElem?_set_ne hne]
  | look m =>
    show (s.poll m).receivers[n]?.map _ = _
    rw [(s.poll_frame m).1]

/-- What a receiver finds depends on whether the signal was given and whether it has passed it. -/
lemma receive_of_passed? {k : Nat} (h : s.passed? n = some k) :
    (s.IsOpen → (s.receive n).1 = .empty ∧ (s.receive n).2.passed? n = some k) ∧
      (s.IsOver → (s.receive n).1 = (if k = 0 then .signal else .closed) ∧
        (s.receive n).2.passed? n = some (if k = 0 then 1 else k)) := by
  obtain ⟨r, hr, rfl⟩ := Option.map_eq_some_iff.mp h
  obtain ⟨hn, -⟩ := List.getElem?_eq_some_iff.mp hr
  have hself (r' : Receiver) : (s.receivers.set n r')[n]? = some r' := by
    rw [List.getElem?_set_self hn]
  refine ⟨fun hopen => ?_, fun hover => ?_⟩
  · obtain rfl := hopen.receivers r (List.mem_of_getElem? hr)
    rw [receive_eq hr, hopen.take, passed?, hself]
    exact ⟨rfl, rfl⟩
  · rw [receive_eq hr, (hover.receivers r (List.mem_of_getElem? hr)).take, passed?, hself]
    split <;> exact ⟨rfl, rfl⟩

/-- **A receiver has passed the signal once it has looked for it after the end.**

**Proof sketch.** By induction on what came after the subscription. A step of somebody else changes
neither side. If the receiver looks before the end, it finds nothing; if it looks after it, it has
passed the signal from then on. -/
theorem passed?_after (earlier last : List Step) (via : Nat) :
    (after (earlier ++ .subscribe via :: last)).passed? (after earlier).receivers.length =
      some (if .receive (after earlier).receivers.length ∈ sinceEnd earlier last then 1
        else 0) := by
  set n := (after earlier).receivers.length with hn
  induction last using List.reverseRecOn with
  | nil =>
    have hpassed : (after earlier).connect.1.passed = 0 := by
      cases hover : isOver earlier with
      | true => exact (isOver_after hover).connect.2.2
      | false => rw [(isOpen_after hover).connect]
    rw [after_concat, perform, subscribe_eq, passed?, hn, List.getElem?_concat_length]
    simpa [sinceEnd] using hpassed
  | append_singleton last x ih =>
    have hbefore : isOver (earlier ++ .subscribe via :: last) = isOver (earlier ++ last) := by
      simp [isOver, Step.isTrigger]
    rw [← List.cons_append, ← List.append_assoc, after_concat, sinceEnd_concat, isOver_concat]
    by_cases hx : x = .receive n
    · subst hx
      cases hover : isOver (earlier ++ last) with
      | false =>
        have hopen := isOpen_after (hbefore.trans hover)
        refine ((receive_of_passed? ih).1 hopen).2.trans ?_
        simp [Step.isTrigger]
      | true =>
        have hend := isOver_after (hbefore.trans hover)
        refine ((receive_of_passed? ih).2 hend).2.trans ?_
        split <;> simp
    · have hlength : n < (after (earlier ++ .subscribe via :: last)).receivers.length := by
        obtain ⟨r, hr, -⟩ := Option.map_eq_some_iff.mp ih
        exact (List.getElem?_eq_some_iff.mp hr).1
      have hmem : Step.receive n ∉ if isOver (earlier ++ last) || x.isTrigger then [x] else [] := by
        split <;> simp [Ne.symm hx]
      rw [passed?_perform hlength hx, ih]
      simp only [List.mem_append, hmem, or_false]

/-! ## One waiter -/

/-- Waiters do not go away. -/
lemma length_waiters_perform (s : Shutdown) (x : Step) :
    s.waiters.length ≤ (s.perform x).2.waiters.length := by
  cases x with
  | trigger via =>
    rw [perform, trigger]
    cases s.cell <;> exact Nat.le_refl _
  | ask via => exact Nat.le_refl _
  | subscribe via =>
    rw [perform, subscribe_eq]
    exact (congrArg List.length (connect_waiters s)).ge
  | receive m =>
    show _ ≤ (s.receive m).2.waiters.length
    cases hr : s.receivers[m]? with
    | none => rw [receive_of_none hr]
    | some r => rw [receive_eq hr]
  | wait via => exact (List.length_append ▸ Nat.le_add_right ..)
  | look m => exact (s.poll_frame m).2.ge

/-- Waiters do not go away in any number of steps. -/
lemma length_waiters_after (earlier last : List Step) :
    (after earlier).waiters.length ≤ (after (earlier ++ last)).waiters.length := by
  induction last using List.reverseRecOn with
  | nil => rw [List.append_nil]
  | append_singleton last x ih =>
    rw [← List.append_assoc, after_concat]
    exact ih.trans (length_waiters_perform _ x)

/-- **A waiter is released exactly if the signal was given.** -/
theorem look_after (hn : n < (after steps).waiters.length) :
    ((after steps).look n).1 = !isOver steps := by
  cases hover : isOver steps with
  | true =>
    have hw := ((isOver_after hover).poll n).2
    simp only [look, hw, List.getElem?_set_self hn, Bool.not_true]
  | false =>
    have hw := (isOpen_after hover).poll n
    simp only [look, hw, List.getElem?_set_self hn, Bool.not_false]

/-! ## What everybody finds out -/

/-- **Everybody gets the signal exactly once.** Take a manager and its clones, and any steps.

1. A receiver that subscribes through any of them, whether before or after the end, finds nothing
   whenever it looks before the signal was given, the signal when it looks for the first time
   since, and a closed channel whenever it looks after that.
2. Somebody who waits is released as soon as the signal was given, and not before.
3. Each of them tells that the end has come exactly from the first signal on.
4. To give the signal once more changes nothing, whatever is done then.

**Proof sketch.** The states before the first signal and those after it are closed under all other
steps. In those before it every receiver is at the place of the next signal of the one channel; in
those after it every receiver's channel holds one signal and is closed. So what a receiver finds is
decided by how many signals it has passed, and that is whether it has looked since the end. -/
theorem signal_taken_once (earlier last : List Step) (via : Nat) :
    (∃ n, answer earlier (.subscribe via) = .number n ∧
      answer (earlier ++ .subscribe via :: last) (.receive n) = .receipt
        (if isOver (earlier ++ last) = false then .empty
          else if .receive n ∈ sinceEnd earlier last then .closed else .signal)) ∧
    (∃ n, answer earlier (.wait via) = .number n ∧
      answer (earlier ++ .wait via :: last) (.look n) = .truth (!isOver (earlier ++ last))) ∧
    answer earlier (.ask via) = .truth (isOver earlier) ∧
    ∀ v rest, after (earlier ++ .trigger via :: (last ++ .trigger v :: rest)) =
      after (earlier ++ .trigger via :: (last ++ rest)) := by
  have hsame (x : Step) (hx : x.isTrigger = false) :
      isOver (earlier ++ x :: last) = isOver (earlier ++ last) := by
    simp [isOver, hx]
  refine ⟨⟨(after earlier).receivers.length, ?_, ?_⟩, ⟨(after earlier).waiters.length, rfl, ?_⟩,
    congrArg _ (triggered_after earlier), fun v rest => ?_⟩
  · rw [answer, perform, subscribe_eq]
  · have hpassed := receive_of_passed? (passed?_after earlier last via)
    refine congrArg Answer.receipt ?_
    cases hover : isOver (earlier ++ last) with
    | false => exact (hpassed.1 (isOpen_after ((hsame _ rfl).trans hover))).1
    | true =>
      refine (hpassed.2 (isOver_after ((hsame _ rfl).trans hover))).1.trans ?_
      by_cases hmem : .receive (after earlier).receivers.length ∈ sinceEnd earlier last <;>
        simp [hmem]
  · have hlength : (after earlier).waiters.length <
        (after (earlier ++ .wait via :: last)).waiters.length := by
      rw [List.append_cons]
      refine lt_of_lt_of_le ?_ (length_waiters_after (earlier ++ [.wait via]) last)
      rw [after_concat, perform, wait, List.length_append]
      exact Nat.lt_succ_self _
    refine congrArg Answer.truth ((look_after hlength).trans ?_)
    rw [hsame _ rfl]
  · have hover : (after (earlier ++ .trigger via :: last)).IsOver :=
      isOver_after (by simp [isOver, Step.isTrigger])
    have hagain := hover.trigger
    simp only [after, List.foldl_append, List.foldl_cons, perform] at hagain ⊢
    rw [hagain]

/-- A receiver from before the end, and one that comes after it by way of another clone. -/
example :
    let steps : List Step := [.subscribe 0, .receive 0, .trigger 1, .subscribe 2, .trigger 0]
    answer (steps.take 1) (.receive 0) = .receipt .empty ∧
      answer steps (.receive 0) = .receipt .signal ∧
      answer steps (.receive 1) = .receipt .signal ∧
      answer (steps ++ [.receive 1]) (.receive 1) = .receipt .closed := by
  decide

end ConversionScheduler.Shutdown
