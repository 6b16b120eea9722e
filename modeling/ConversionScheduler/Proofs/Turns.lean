import ConversionScheduler.Balancer
import Mathlib.Algebra.Ring.Nat
import Mathlib.Data.List.Count
import Mathlib.Data.List.Rotate
/-!
# Taking turns

Both balancers make the workers take turns, each as often in a row as it has weight, and the counter
says whose turn it is. A window of as many choices as there are turns, from wherever it begins,
contains every turn once, since it is the list of turns, rotated. So every worker is chosen as often
as it has weight, and `k` times as often in a window `k` times as long.

## Main definitions

* `Balancer.counter`, `Balancer.weight`, `Balancer.IsWeighted` — what there is to know about a
  balancer.
* `Balancer.turns` — the workers, each as often as it has weight.

## Main results

* `Balancer.select_eq` — the balancer chooses the worker whose turn it is, and counts.
* `Balancer.exists_select` — one of the workers is chosen, if there are any.
* `Balancer.count_turns` — each worker has as many turns as it has weight.
* `Balancer.weight_observe`, `Balancer.weight_forget` — how the weights change.
* `Balancer.count_window` — so it does in every window of choices, proportionally.
-/

namespace ConversionScheduler

namespace Balancer

/-- The number of the choices made so far, until it wraps around. -/
def counter : Balancer → UInt64
  | roundRobin n | weighted n _ => n

/-- The weight that a balancer gives to a worker. -/
def weight : Balancer → String → Nat
  | roundRobin _, _ => 1
  | weighted _ weights, id => weightOf weights id

/-- The workers in the order in which they take turns, each as often as it has weight. -/
def turns (weight : String → Nat) (ids : List String) : List String :=
  ids.flatMap fun id => List.replicate (weight id) id

/-- Whether a balancer heeds weights. -/
def IsWeighted : Balancer → Prop
  | roundRobin _ => False
  | weighted .. => True

variable {b : Balancer} {w : String → Nat} {ids : List String} {id : String}

/-- Every worker has some weight. -/
lemma weight_pos (b : Balancer) (id : String) : 0 < b.weight id := by
  cases b with
  | roundRobin n => exact Nat.one_pos
  | weighted n weights => exact Nat.lt_of_lt_of_le Nat.one_pos (Nat.le_max_right _ _)

/-! ## Turns -/

/-- The first worker has its turns before the others. -/
lemma turns_cons (id : String) (ids : List String) :
    turns w (id :: ids) = List.replicate (w id) id ++ turns w ids := List.flatMap_cons

/-- There are as many turns as the listed workers have weight together. -/
lemma length_turns (w : String → Nat) (ids : List String) :
    (turns w ids).length = (ids.map w).sum := by
  rw [turns, List.length_flatMap]
  congr 1
  exact List.map_congr_left fun id _ => List.length_replicate

/-- With a weight of 1 each, every worker has one turn. -/
lemma turns_one (ids : List String) : turns (fun _ => 1) ids = ids := by
  induction ids with
  | nil => rfl
  | cons id ids ih =>
    rw [turns_cons, ih]
    rfl

/-- The turns depend only on the weights of the listed workers. -/
lemma turns_congr {w' : String → Nat} (h : ∀ id ∈ ids, w id = w' id) :
    turns w ids = turns w' ids := by
  induction ids with
  | nil => rfl
  | cons id ids ih =>
    rw [turns_cons, turns_cons, h id (List.mem_cons_self ..),
      ih fun id' hid' => h id' (List.mem_cons_of_mem _ hid')]

/-- Only listed workers have turns. -/
lemma mem_of_mem_turns (h : id ∈ turns w ids) : id ∈ ids := by
  obtain ⟨id', hid', hmem⟩ := List.mem_flatMap.mp h
  rwa [List.eq_of_mem_replicate hmem]

/-- **Each worker has as many turns as it has weight.** -/
theorem count_turns (hids : ids.Nodup) (hid : id ∈ ids) : (turns w ids).count id = w id := by
  induction ids with
  | nil => exact absurd hid (by simp)
  | cons id' ids ih =>
    obtain ⟨hfresh, hids⟩ := List.nodup_cons.mp hids
    rw [turns_cons, List.count_append]
    rcases List.mem_cons.mp hid with rfl | hid
    · have hrest : (turns w ids).count id = 0 :=
        List.count_eq_zero.mpr fun h => hfresh (mem_of_mem_turns h)
      rw [List.count_replicate_self, hrest, Nat.add_zero]
    · have hne : id' ≠ id := fun h => hfresh (h ▸ hid)
      rw [ih hids hid, List.count_replicate, if_neg (by simpa using hne), Nat.zero_add]

/-! ## Choices -/

/-- The shares of the total weight are the places in the list of turns. -/
lemma pick?_eq (weights : Table String Nat) (slot : Nat) (ids : List String) :
    pick? weights slot ids = (turns (weightOf weights) ids)[slot]? := by
  induction ids generalizing slot with
  | nil => rfl
  | cons id ids ih =>
    rw [pick?, turns_cons, ih]
    split
    · rename_i hslot
      rw [List.getElem?_append_left (by rwa [List.length_replicate]),
        List.getElem?_replicate_of_lt hslot]
    · rename_i hslot
      rw [List.getElem?_append_right (by rw [List.length_replicate]; omega),
        List.length_replicate]

/-- The weight that the balancer adds up is the number of turns. -/
lemma totalWeight_eq (weights : Table String Nat) (ids : List String) :
    totalWeight weights ids = (turns (weightOf weights) ids).length := by
  rw [length_turns]
  rfl

/-- **The balancer chooses the worker whose turn it is**, and counts. -/
theorem select_eq (b : Balancer) (hids : ids ≠ []) :
    (b.select ids).1 =
        (turns b.weight ids)[b.counter.toNat % (turns b.weight ids).length]? ∧
      (b.select ids).2.counter = b.counter + 1 := by
  have hempty : ¬ ids.isEmpty = true := by simpa using hids
  unfold select
  rw [if_neg hempty]
  cases b with
  | roundRobin n =>
    refine ⟨?_, rfl⟩
    show ids[n.toNat % ids.length]? = (turns (fun _ => 1) ids)[_ % (turns (fun _ => 1) ids).length]?
    rw [turns_one]
    rfl
  | weighted n weights =>
    refine ⟨?_, rfl⟩
    show pick? weights (n.toNat % totalWeight weights ids) ids = _
    rw [pick?_eq, totalWeight_eq]
    rfl

/-- There is always a choice among workers that are listed. -/
lemma exists_turn (b : Balancer) (hids : ids ≠ []) (n : Nat) :
    ∃ id ∈ ids, (turns b.weight ids)[n % (turns b.weight ids).length]? = some id := by
  obtain ⟨id, rest, rfl⟩ := List.exists_cons_of_ne_nil hids
  have hpos : 0 < (turns b.weight (id :: rest)).length := by
    rw [turns_cons, List.length_append, List.length_replicate]
    exact Nat.add_pos_left (b.weight_pos id) _
  have hlt := Nat.mod_lt n hpos
  exact ⟨_, mem_of_mem_turns (List.getElem_mem hlt), List.getElem?_eq_getElem hlt⟩

/-- **A balancer chooses one of the workers that are listed**, if any is. -/
theorem exists_select (b : Balancer) (hids : ids ≠ []) :
    ∃ id ∈ ids, (b.select ids).1 = some id := by
  obtain ⟨id, hid, hturn⟩ := b.exists_turn hids b.counter.toNat
  exact ⟨id, hid, (b.select_eq hids).1.trans hturn⟩

/-! ## Notices -/

/-- Taking notice of a worker leaves the counter alone. -/
lemma counter_observe (b : Balancer) (id : String) (weight : Nat) :
    (b.observe id weight).counter = b.counter := by
  cases b <;> rfl

/-- Forgetting a worker leaves the counter alone. -/
lemma counter_forget (b : Balancer) (id : String) : (b.forget id).counter = b.counter := by
  cases b <;> rfl

/-- A balancer that takes notice of a worker gives it the weight that it is told. -/
lemma weight_observe (h : b.IsWeighted) (id id' : String) (weight : Nat) :
    (b.observe id weight).weight id' = if id' = id then max weight 1 else b.weight id' := by
  cases b with
  | roundRobin n => exact h.elim
  | weighted n weights =>
    show weightOf (weights.insert id (max weight 1)) id' = _
    rw [weightOf, Table.get?_insert]
    split
    · rw [Option.getD_some, Nat.max_assoc, Nat.max_self]
    · rfl

/-- A worker that has been forgotten has a weight of 1. -/
lemma weight_forget (b : Balancer) (id id' : String) :
    (b.forget id).weight id' = if id' = id then 1 else b.weight id' := by
  cases b with
  | roundRobin n => exact (ite_self 1).symm
  | weighted n weights =>
    show weightOf (weights.erase id) id' = _
    rw [weightOf, Table.get?_erase]
    split <;> rfl

/-- A balancer heeds weights after it has taken notice of a worker if it did before. -/
lemma isWeighted_observe (id : String) (weight : Nat) :
    (b.observe id weight).IsWeighted ↔ b.IsWeighted := by
  cases b <;> rfl

/-- A balancer heeds weights after it has forgotten a worker if it did before. -/
lemma isWeighted_forget (id : String) : (b.forget id).IsWeighted ↔ b.IsWeighted := by
  cases b <;> rfl

/-- A choice changes no weight. -/
lemma weight_select (b : Balancer) (ids : List String) :
    (b.select ids).2.weight = b.weight ∧ ((b.select ids).2.IsWeighted ↔ b.IsWeighted) := by
  unfold select
  split
  · exact ⟨rfl, Iff.rfl⟩
  · cases b <;> exact ⟨rfl, Iff.rfl⟩

/-! ## Windows -/

section Windows

variable {α : Type} (l : List α)

/-- As many steps as there are places, from any of them on, are the places, rotated. -/
lemma map_places_eq_rotate (start : Nat) :
    ((List.range l.length).map fun j => l[(start + j) % l.length]?) =
      (l.rotate start).map some := by
  refine List.ext_getElem (by simp) fun j hj _ => ?_
  have hlt : j < l.length := by simpa using hj
  have hplace : (start + j) % l.length < l.length := Nat.mod_lt _ (Nat.zero_lt_of_lt hlt)
  simp only [List.getElem_map, List.getElem_range, List.getElem_rotate]
  rw [Nat.add_comm j start, List.getElem?_eq_getElem hplace]

variable [DecidableEq α]

/-- Once around a list every entry comes up as often as it is in the list, wherever one starts. -/
lemma count_places_once (start : Nat) (a : α) :
    ((List.range l.length).map fun j => l[(start + j) % l.length]?).count (some a) =
      l.count a := by
  rw [map_places_eq_rotate, List.count_map_of_injective _ _ fun _ _ => Option.some.inj]
  exact (l.rotate_perm start).count_eq a

/-- Going around `k` times, from any place on, one comes past everything `k` times as often as it is
there. -/
lemma count_places (start k : Nat) (a : α) :
    ((List.range (k * l.length)).map fun j => l[(start + j) % l.length]?).count (some a) =
      k * l.count a := by
  induction k with
  | zero => simp
  | succ k ih =>
    have hplace : ∀ j, (start + (k * l.length + j)) % l.length = (start + j) % l.length := by
      intro j
      rw [Nat.add_left_comm, Nat.mul_comm, Nat.mul_add_mod]
    rw [Nat.succ_mul, List.range_add, List.map_append, List.count_append, ih, List.map_map]
    simp only [Function.comp_def, hplace]
    rw [count_places_once, Nat.succ_mul]

end Windows

/-- **In a window of choices each worker is chosen in proportion to its weight**, exactly, from
whatever turn the window begins. -/
theorem count_window (hids : ids.Nodup) (hid : id ∈ ids) (start k : Nat) :
    ((List.range (k * (ids.map w).sum)).map fun j =>
      (turns w ids)[(start + j) % (turns w ids).length]?).count (some id) = k * w id := by
  rw [← length_turns, count_places, count_turns hids hid]

end Balancer

end ConversionScheduler
