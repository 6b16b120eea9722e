/-!
# Finite maps

A `Table κ α` keeps its entries in a list, at most one for each key. It is the map behind
every cache and store of this library: small, printable, and open to reasoning by cases on the
key that was last written.

## Main definitions

* `Table.get?`, `Table.insert`, `Table.erase`, `Table.filter`, `Table.keys` — the operations.

## Main results

* `Table.get?_insert`, `Table.get?_erase`, `Table.get?_filter` — each operation through `get?`.
* `Table.mem_keys_iff` — the keys are those with a value.
-/

namespace ConversionScheduler

/-- A finite map, given by its entries. The first entry of a key is the one that counts. -/
structure Table (κ α : Type) where
  entries : List (κ × α)

namespace Table

variable {κ α : Type}

/-- The map without entries. -/
def empty : Table κ α := ⟨[]⟩

/-- The map without entries. -/
instance : Inhabited (Table κ α) := ⟨empty⟩

/-- The number of entries. -/
def size (t : Table κ α) : Nat := t.entries.length

/-- The keys, in the order of the entries. -/
def keys (t : Table κ α) : List κ := t.entries.map (·.1)

/-- Keeps the entries that satisfy `p`. -/
def filter (p : κ → α → Bool) (t : Table κ α) : Table κ α := ⟨t.entries.filter fun e => p e.1 e.2⟩

variable [DecidableEq κ]

/-- The value of `k` in a list of entries. -/
def find? (k : κ) : List (κ × α) → Option α
  | [] => none
  | (k', a) :: rest => if k' = k then some a else find? k rest

/-- The value of `k`, if it has one. -/
def get? (t : Table κ α) (k : κ) : Option α := find? k t.entries

/-- Forgets the value of `k`. -/
def erase (t : Table κ α) (k : κ) : Table κ α := ⟨t.entries.filter fun e => e.1 ≠ k⟩

/-- Gives `k` the value `a`, in place of the one it may have had. -/
def insert (t : Table κ α) (k : κ) (a : α) : Table κ α := ⟨(k, a) :: (t.erase k).entries⟩

/-! ## The operations through `get?` -/

/-- A filter on keys leaves a key its value, or takes it away. -/
theorem find?_filter (p : κ → Bool) (k : κ) (es : List (κ × α)) :
    find? k (es.filter fun e => p e.1) = if p k then find? k es else none := by
  induction es with
  | nil => simp [find?]
  | cons e es ih =>
    obtain ⟨k', a⟩ := e
    by_cases hp : p k' = true <;> by_cases hk : k' = k <;> simp_all [find?]

/-- No key has a value in the map without entries. -/
@[simp] theorem get?_empty (k : κ) : (empty : Table κ α).get? k = none := rfl

/-- Forgetting a key takes the value of that key away and of no other. -/
theorem get?_erase (t : Table κ α) (k k' : κ) :
    (t.erase k).get? k' = if k' = k then none else t.get? k' := by
  have h := find?_filter (fun x => decide (x ≠ k)) k' t.entries
  by_cases hk : k' = k <;> simp_all [get?, erase]

/-- Giving a value to a key changes the value of that key and of no other. -/
theorem get?_insert (t : Table κ α) (k k' : κ) (a : α) :
    (t.insert k a).get? k' = if k' = k then some a else t.get? k' := by
  have h := get?_erase t k k'
  by_cases hk : k' = k
  · simp [get?, insert, find?, hk]
  · have hk' : ¬ k = k' := fun e => hk e.symm
    simp_all [get?, insert, find?]

/-- A key has the value that it was given last. -/
@[simp] theorem get?_insert_self (t : Table κ α) (k : κ) (a : α) :
    (t.insert k a).get? k = some a := by simp [get?_insert]

/-- A key that was forgotten has no value. -/
@[simp] theorem get?_erase_self (t : Table κ α) (k : κ) : (t.erase k).get? k = none := by
  simp [get?_erase]

/-- A key has no value exactly if it is the key of no entry. -/
theorem find?_eq_none_iff (k : κ) (es : List (κ × α)) :
    find? k es = none ↔ k ∉ es.map (·.1) := by
  induction es with
  | nil => simp [find?]
  | cons e es ih =>
    obtain ⟨k', a⟩ := e
    by_cases hk : k' = k
    · simp [find?, hk]
    · have hk' : ¬ k = k' := fun h => hk h.symm
      simp [find?, hk, hk', ih]

/-- The keys are the ones with a value. -/
theorem mem_keys_iff (t : Table κ α) (k : κ) : k ∈ t.keys ↔ (t.get? k).isSome := by
  have h := find?_eq_none_iff k t.entries
  constructor
  · intro hk
    cases hf : t.get? k with
    | none => exact absurd hk (h.1 hf)
    | some a => rfl
  · intro hs
    apply Classical.byContradiction
    intro hk
    have : t.get? k = none := h.2 hk
    simp [this] at hs

end Table

end ConversionScheduler
