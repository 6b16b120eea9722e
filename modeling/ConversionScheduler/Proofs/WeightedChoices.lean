import ConversionScheduler.Json.Dialect
import ConversionScheduler.Proofs.Turns
import Mathlib.Algebra.Order.BigOperators.Group.List
/-!
# Weighted choices in 64 bits

What a weighted balancer knows is what it was told: the weight of a worker is the last one that was
given to it since it was last forgotten, and at least 1. The balancer never writes down the list of
turns. It adds up the weights, takes the remainder of the counter, and walks along the listed
workers, taking the weight of each off the slot until the slot falls within a share.

In unbounded numbers each of these steps has a result, whatever it is: a remainder by zero is the
number itself, and a difference that would be negative is zero. So it does not follow from the
choice alone that the steps make sense. Here they are taken a second time in 64-bit numbers, where
a sum that does not fit, a remainder by zero and a negative difference have no result, and neither
has a walk past the last worker. For fewer than `2 ^ 32` workers with weights of 32 bits all
steps have results, and the choice is the same.

## Main definitions

* `Balancer.Notice` — what a balancer is told about a worker.
* `Balancer.given?` — the weight that a worker was given last and that was not forgotten since.
* `Balancer.checked?` — the choice by checked steps in 64 bits.

## Main results

* `Balancer.weight_foldl_apply` — the weights after any sequence of notices.
* `Balancer.checked?_eq` — every step of a choice has a result.
* `Balancer.select_weighted` — a weighted choice is the place of the counter in the list of turns.
-/

namespace ConversionScheduler

namespace Balancer

/-- What a balancer is told about a worker. -/
inductive Notice
  | observed (id : String) (weight : Nat)
  | weighted (id : String) (weight : Nat)
  | forgotten (id : String)

namespace Notice

/-- The worker that a notice is about. -/
def id : Notice → String
  | observed id _ | weighted id _ | forgotten id => id

/-- The weight that a notice gives to the worker, if it gives one. -/
def weight? : Notice → Option Nat
  | observed _ weight | weighted _ weight => some weight
  | forgotten _ => none

/-- Tells a balancer. -/
def apply (b : Balancer) : Notice → Balancer
  | observed id weight => b.observe id weight
  | weighted id weight => b.setWeight id weight
  | forgotten id => b.forget id

end Notice

/-- The weight that was given to a worker last, unless the worker was forgotten since. -/
def given? (notices : List Notice) (id : String) : Option Nat :=
  (notices.reverse.find? (·.id = id)).bind Notice.weight?

/-! ## What the balancer knows -/

variable {b : Balancer} {c : UInt64} {weights : Table String Nat} {notices : List Notice}
  {ids : List String}

/-- A balancer that heeds weights does so after any notices. -/
lemma isWeighted_foldl_apply (notices : List Notice) (h : b.IsWeighted) :
    (notices.foldl Notice.apply b).IsWeighted := by
  induction notices generalizing b with
  | nil => exact h
  | cons n notices ih =>
    refine ih ?_
    cases n with
    | observed id weight => exact (isWeighted_observe id weight).mpr h
    | weighted id weight => exact (isWeighted_observe id weight).mpr h
    | forgotten id => exact (isWeighted_forget id).mpr h

/-- A notice gives a weight to its worker, or takes it away, and concerns no other worker. -/
lemma weight_apply (h : b.IsWeighted) (n : Notice) (id : String) :
    (n.apply b).weight id = if id = n.id then max (n.weight?.getD 1) 1 else b.weight id := by
  cases n with
  | observed id' weight => exact weight_observe h id' id weight
  | weighted id' weight => exact weight_observe h id' id weight
  | forgotten id' => exact weight_forget b id' id

/-- The last notice about a worker is the one that counts. -/
lemma given?_concat (notices : List Notice) (n : Notice) (id : String) :
    given? (notices ++ [n]) id = if id = n.id then n.weight? else given? notices id := by
  rw [given?, List.reverse_append, List.reverse_singleton, List.singleton_append, List.find?_cons]
  by_cases hid : id = n.id
  · simp [hid]
  · simp [hid, Ne.symm hid, given?]

/-- **The weight of a worker is the last one given since it was last forgotten**, and at least 1. -/
theorem weight_foldl_apply (c : UInt64) (notices : List Notice) (id : String) :
    (notices.foldl Notice.apply (.weighted c .empty)).weight id =
      max ((given? notices id).getD 1) 1 := by
  induction notices using List.reverseRecOn with
  | nil => rfl
  | append_singleton notices n ih =>
    have htold := isWeighted_foldl_apply (b := .weighted c .empty) notices trivial
    rw [List.foldl_append, List.foldl_cons, List.foldl_nil, weight_apply htold, ih, given?_concat]
    split <;> rfl

/-- The weights that a balancer learns of do not depend on its counter, nor the counter on them. -/
lemma foldl_apply_weighted (weights : Table String Nat) (notices : List Notice) :
    ∃ weights', ∀ c, notices.foldl Notice.apply (.weighted c weights) = .weighted c weights' := by
  induction notices generalizing weights with
  | nil => exact ⟨weights, fun _ => rfl⟩
  | cons n notices ih =>
    cases n with
    | observed id weight => exact ih (weights.insert id (max weight 1))
    | weighted id weight => exact ih (weights.insert id (max weight 1))
    | forgotten id => exact ih (weights.erase id)

/-! ## Checked steps -/

/-- The sum of two 64-bit numbers, if it fits. -/
def sum? (m n : UInt64) : Option UInt64 :=
  if m.toNat + n.toNat < UInt64.size then some (m + n) else none

/-- The difference of two 64-bit numbers, if it is not negative. -/
def difference? (m n : UInt64) : Option UInt64 := if n ≤ m then some (m - n) else none

/-- The remainder of a 64-bit number, unless it is by zero. -/
def remainder? (m n : UInt64) : Option UInt64 := if n = 0 then none else some (m % n)

/-- The weight of all listed workers, added up from the left. -/
def checkedTotal? (weight : String → UInt64) (ids : List String) : Option UInt64 :=
  ids.foldlM (fun total id => sum? total (weight id)) 0

/-- The worker in whose share of the total weight the slot falls. -/
def checkedPick? (weight : String → UInt64) : UInt64 → List String → Option String
  | _, [] => none
  | slot, id :: rest =>
    if slot < weight id then some id
    else (difference? slot (weight id)).bind fun slot => checkedPick? weight slot rest

/-- The choice at a counter. Every step is checked, and there is no result if one of them fails. -/
def checked? (weight : String → UInt64) (c : UInt64) (ids : List String) : Option String := do
  let total ← checkedTotal? weight ids
  let slot ← remainder? c total
  checkedPick? weight slot ids

variable {w : String → UInt64}

/-- No partial sum overflows if the whole sum fits, and what comes out is the whole sum. -/
lemma foldlM_sum? (start : UInt64)
    (hfits : start.toNat + (ids.map fun id => (w id).toNat).sum < UInt64.size) :
    ∃ total, ids.foldlM (fun total id => sum? total (w id)) start = some total ∧
      total.toNat = start.toNat + (ids.map fun id => (w id).toNat).sum := by
  induction ids generalizing start with
  | nil => exact ⟨start, rfl, rfl⟩
  | cons id ids ih =>
    rw [List.map_cons, List.sum_cons] at hfits
    have hsum : start.toNat + (w id).toNat < UInt64.size := by omega
    have hnat : (start + w id).toNat = start.toNat + (w id).toNat := by
      rw [UInt64.toNat_add, Nat.mod_eq_of_lt hsum]
    obtain ⟨total, htotal, heq⟩ := ih (start + w id) (by omega)
    refine ⟨total, ?_, ?_⟩
    · rw [List.foldlM_cons, sum?, if_pos hsum]
      exact htotal
    · rw [heq, hnat, List.map_cons, List.sum_cons, Nat.add_assoc]

/-- The total weight fits if the turns can be counted in 64 bits. -/
lemma checkedTotal?_eq
    (hfits : (turns (fun id => (w id).toNat) ids).length < UInt64.size) :
    ∃ total, checkedTotal? w ids = some total ∧
      total.toNat = (turns (fun id => (w id).toNat) ids).length := by
  rw [length_turns] at hfits ⊢
  simpa [checkedTotal?] using foldlM_sum? 0 (by simpa using hfits)

/-- No difference of the walk is negative: it ends at the place of the slot in the list of turns. -/
lemma checkedPick?_eq (slot : UInt64) (ids : List String) :
    checkedPick? w slot ids = (turns (fun id => (w id).toNat) ids)[slot.toNat]? := by
  induction ids generalizing slot with
  | nil => rfl
  | cons id ids ih =>
    rw [checkedPick?, turns_cons]
    split
    · rename_i hslot
      have hslot : slot.toNat < (w id).toNat := UInt64.lt_iff_toNat_lt.mp hslot
      rw [List.getElem?_append_left (by rwa [List.length_replicate]),
        List.getElem?_replicate_of_lt hslot]
    · rename_i hslot
      have hle : w id ≤ slot := UInt64.not_lt.mp hslot
      have hnat : (w id).toNat ≤ slot.toNat := UInt64.le_iff_toNat_le.mp hle
      rw [difference?, if_pos hle, Option.bind_some, ih, UInt64.toNat_sub_of_le _ _ hle,
        List.getElem?_append_right (by rwa [List.length_replicate]), List.length_replicate]

/-- **Every step of a choice has a result**: with at least one turn, and no more than can be counted
in 64 bits, nothing overflows, the remainder is not by zero, no difference is negative and the walk
ends at a worker. -/
theorem checked?_eq (c : UInt64) (hpos : 0 < (turns (fun id => (w id).toNat) ids).length)
    (hfits : (turns (fun id => (w id).toNat) ids).length < UInt64.size) :
    checked? w c ids = (turns (fun id => (w id).toNat) ids)[
      c.toNat % (turns (fun id => (w id).toNat) ids).length]? := by
  obtain ⟨total, htotal, hnat⟩ := checkedTotal?_eq hfits
  have hne : total ≠ 0 := by
    rintro rfl
    exact absurd hnat (by simpa using hpos.ne)
  unfold checked?
  rw [htotal, Option.bind_eq_bind, Option.bind_some, remainder?, if_neg hne, Option.bind_some,
    checkedPick?_eq, UInt64.toNat_mod, hnat]

/-! ## The choice -/

/-- With weights of at most `n` there are at most `n` turns for each listed worker. -/
lemma length_turns_le {weight : String → Nat} {n : Nat} (hweight : ∀ id, weight id ≤ n)
    (ids : List String) : (turns weight ids).length ≤ ids.length * n := by
  induction ids with
  | nil => exact Nat.zero_le _
  | cons id ids ih =>
    rw [turns_cons, List.length_append, List.length_replicate, List.length_cons, Nat.succ_mul,
      Nat.add_comm]
    exact Nat.add_le_add ih (hweight id)

/-- Fewer than `2 ^ 32` workers with weights of 32 bits have turns that can be counted in 64
bits. -/
lemma length_turns_lt {weight : String → Nat} (hweight : ∀ id, weight id < Dialect.bound32)
    (hcount : ids.length < Dialect.bound32) : (turns weight ids).length < UInt64.size :=
  calc (turns weight ids).length
      ≤ ids.length * (Dialect.bound32 - 1) :=
        length_turns_le (fun id => Nat.le_sub_one_of_lt (hweight id)) ids
    _ ≤ Dialect.bound32 * (Dialect.bound32 - 1) := Nat.mul_le_mul_right _ hcount.le
    _ < UInt64.size := by decide

/-- Weights of 32 bits are kept as weights of 32 bits; where none was given, 1 is one as well. -/
lemma weight_foldl_apply_lt (hgiven : ∀ n ∈ notices, ∀ weight, n.weight? = some weight →
    weight < Dialect.bound32) (c : UInt64) (id : String) :
    (notices.foldl Notice.apply (.weighted c .empty)).weight id < Dialect.bound32 := by
  rw [weight_foldl_apply, given?]
  have hone : 1 < Dialect.bound32 := by decide
  cases hfind : notices.reverse.find? (·.id = id) with
  | none => exact hone
  | some n =>
    rw [Option.bind_some]
    have hmem : n ∈ notices := List.mem_reverse.mp (List.mem_of_find?_eq_some hfind)
    cases hweight : n.weight? with
    | none => exact hone
    | some weight => exact max_lt (hgiven n hmem weight hweight) hone

/-- A weighted balancer chooses by the place of its counter, which goes up by one, and keeps the
weights. -/
lemma exists_select_weighted (c : UInt64) (weights : Table String Nat) (hids : ids ≠ []) :
    ∃ id, (turns (weighted c weights).weight ids)[
        c.toNat % (turns (weighted c weights).weight ids).length]? = some id ∧
      (weighted c weights).select ids = (some id, weighted (c + 1) weights) := by
  obtain ⟨id, -, hturn⟩ := (weighted c weights).exists_turn hids c.toNat
  obtain ⟨hselect, -⟩ := (weighted c weights).select_eq hids
  refine ⟨id, hturn, Prod.ext (hselect.trans hturn) ?_⟩
  rw [select, if_neg (by simpa using hids)]

/-- Weights of 32 bits are the same numbers in 64 bits, so that the checked steps lead to the place
of the counter as well. -/
lemma checked?_weight (hbound : ∀ id, b.weight id < Dialect.bound32)
    (hcount : ids.length < Dialect.bound32) (hids : ids ≠ []) (c : UInt64) :
    checked? (fun id => .ofNat (b.weight id)) c ids =
      (turns b.weight ids)[c.toNat % (turns b.weight ids).length]? := by
  have hpos : 0 < (turns b.weight ids).length := by
    obtain ⟨id, -, hturn⟩ := b.exists_turn hids 0
    obtain ⟨hlt, -⟩ := List.getElem?_eq_some_iff.mp hturn
    exact Nat.zero_lt_of_lt hlt
  have hfits : (turns b.weight ids).length < UInt64.size := length_turns_lt hbound hcount
  have hword : (fun id => (UInt64.ofNat (b.weight id)).toNat) = b.weight := by
    funext id
    exact UInt64.toNat_ofNat_of_lt' ((hbound id).trans (by decide))
  rw [checked?_eq c (by rwa [hword]) (by rwa [hword]), hword]

/-- **Without a weight above 1 the choice is that of round robin**, and so is the counter. -/
lemma select_of_weight_le_one {weights : Table String Nat}
    (hone : ∀ id ∈ ids, (weighted c weights).weight id ≤ 1) :
    ((weighted c weights).select ids).1 = ((roundRobin c).select ids).1 ∧
      ((weighted c weights).select ids).2.counter = ((roundRobin c).select ids).2.counter := by
  by_cases hids : ids = []
  · subst hids
    exact ⟨rfl, rfl⟩
  have hturns : turns (weighted c weights).weight ids = turns (roundRobin c).weight ids :=
    turns_congr fun id hid => le_antisymm (hone id hid) ((weighted c weights).weight_pos id)
  obtain ⟨hselect, hcounter⟩ := (weighted c weights).select_eq hids
  obtain ⟨hselect', hcounter'⟩ := (roundRobin c).select_eq hids
  refine ⟨?_, hcounter.trans hcounter'.symm⟩
  rw [hselect, hselect', hturns]
  rfl

/-- **A weighted choice is the place of the counter in the list of turns.** After any notices with
weights of 32 bits, the weight of a worker is the last one given since it was last forgotten, and at
least 1. There is no choice if no worker is listed, and then the counter stays as it is. Otherwise
the chosen worker is at the counter's place in the list in which each worker is repeated as often as
it has weight, counting around that list; the counter goes up by one; and the choice by checked
64-bit steps is the same, so that none of them fails. If no listed worker has a weight above 1, then
the choice and the counter are those of round robin.

**Proof sketch.** Notices change the weights of a weighted balancer and never its counter. So what
is told does not depend on the counter, and the three statements about a choice are those about a
weighted balancer with any weights. -/
theorem select_weighted (notices : List Notice) (ids : List String)
    (hgiven : ∀ n ∈ notices, ∀ weight, n.weight? = some weight → weight < Dialect.bound32)
    (hcount : ids.length < Dialect.bound32) (c : UInt64) :
    let told := fun c => notices.foldl Notice.apply (.weighted c .empty)
    let places := turns (told c).weight ids
    (∀ id, (told c).weight id = max ((given? notices id).getD 1) 1) ∧
      (((told c).select ids).1 = none ↔ ids = []) ∧
      (ids = [] → ((told c).select ids).2 = told c) ∧
      (ids ≠ [] →
        0 < places.length ∧ places.length < UInt64.size ∧
          ∃ id, places[c.toNat % places.length]? = some id ∧
            (told c).select ids = (some id, told (c + 1)) ∧
            checked? (fun id => .ofNat ((told c).weight id)) c ids = some id) ∧
      ((∀ id ∈ ids, (told c).weight id ≤ 1) →
        ((told c).select ids).1 = ((roundRobin c).select ids).1 ∧
          ((told c).select ids).2.counter = ((roundRobin c).select ids).2.counter) := by
  intro told places
  have hbound := weight_foldl_apply_lt hgiven c
  obtain ⟨weights, htold⟩ := foldl_apply_weighted .empty notices
  have hnil : ids = [] → (told c).select ids = (none, told c) := by
    rintro rfl
    rfl
  have hchosen : ids ≠ [] → ∃ id, places[c.toNat % places.length]? = some id ∧
      (told c).select ids = (some id, told (c + 1)) := by
    intro hids
    show ∃ id, (turns (told c).weight ids)[_ % (turns (told c).weight ids).length]? = some id ∧ _
    rw [show told c = .weighted c weights from htold c,
      show told (c + 1) = .weighted (c + 1) weights from htold (c + 1)]
    exact exists_select_weighted c weights hids
  refine ⟨weight_foldl_apply c notices,
    ⟨fun hnone => ?_, fun hids => congrArg Prod.fst (hnil hids)⟩,
    fun hids => congrArg Prod.snd (hnil hids), fun hids => ?_, fun hone => ?_⟩
  · by_contra hids
    obtain ⟨id, -, hselect⟩ := hchosen hids
    rw [hselect] at hnone
    exact absurd hnone (by simp)
  · obtain ⟨id, hturn, hselect⟩ := hchosen hids
    obtain ⟨hplace, -⟩ := List.getElem?_eq_some_iff.mp hturn
    exact ⟨Nat.zero_lt_of_lt hplace, length_turns_lt hbound hcount, id, hturn, hselect,
      (checked?_weight hbound hcount hids c).trans hturn⟩
  · rw [show told c = .weighted c weights from htold c] at hone ⊢
    exact select_of_weight_le_one hone

/-- A worker that is listed twice, with a weight of 3, and one whose weight has been forgotten: of
the seven turns the last falls to the first worker again, and so does the eighth. -/
theorem select_weighted_seven_turns :
    let told := fun c => [Notice.observed "a" 3, .weighted "b" 5, .forgotten "b"].foldl
      Notice.apply (.weighted c .empty)
    (told 6).select ["a", "b", "a"] = (some "a", told 7) ∧
      (told 3).select ["a", "b", "a"] = (some "b", told 4) := by
  intro told
  have hchoice := fun c =>
    (select_weighted [.observed "a" 3, .weighted "b" 5, .forgotten "b"] ["a", "b", "a"]
      (by decide) (by decide) c).2.2.2.1 (by decide)
  obtain ⟨-, -, id, hid, hselect, -⟩ := hchoice 6
  obtain ⟨-, -, id', hid', hselect', -⟩ := hchoice 3
  cases hid.symm.trans (show _ = some "a" by decide)
  cases hid'.symm.trans (show _ = some "b" by decide)
  exact ⟨hselect, hselect'⟩

end Balancer

end ConversionScheduler
