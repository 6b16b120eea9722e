import ConversionScheduler.Table
import Mathlib.Tactic.Common
/-!
# Tables with one entry for each key

A table that was made by the operations on tables has at most one entry for each key, so that
keeping some of its entries is keeping some of its values.

## Main definitions

* `Table.IsProper` — whether every key has one entry.

## Main results

* `Table.IsProper.insert`, `Table.IsProper.erase`, `Table.IsProper.filter` — the operations keep it.
* `Table.get?_filter` — the value of a key among the entries that are kept.
-/

namespace ConversionScheduler.Table

variable {κ α : Type}

/-- Whether every key has one entry. -/
def IsProper (t : Table κ α) : Prop := t.keys.Nodup

/-- The map without entries has no key twice. -/
lemma isProper_empty : (empty : Table κ α).IsProper := List.nodup_nil

/-- Leaving out entries gives no key a second one. -/
lemma isProper_of_sublist {es : List (κ × α)} {t : Table κ α} (h : t.IsProper)
    (hs : es.Sublist t.entries) : (Table.mk es).IsProper := by
  unfold IsProper keys at *
  exact List.Sublist.nodup (hs.map (·.1)) h

/-- A filter gives no key a second entry. -/
lemma IsProper.filter {t : Table κ α} (h : t.IsProper) (p : κ → α → Bool) : (t.filter p).IsProper :=
  isProper_of_sublist h List.filter_sublist

variable [DecidableEq κ]

/-- Forgetting a key gives no other one a second entry. -/
lemma IsProper.erase {t : Table κ α} (h : t.IsProper) (k : κ) : (t.erase k).IsProper :=
  isProper_of_sublist h List.filter_sublist

/-- A key that is given a value loses its earlier entry, and so has one only. -/
lemma IsProper.insert {t : Table κ α} (h : t.IsProper) (k : κ) (a : α) :
    (t.insert k a).IsProper := by
  refine List.nodup_cons.mpr ⟨fun hk => ?_, h.erase k⟩
  have hsome := (mem_keys_iff (t.erase k) k).mp hk
  rw [get?_erase_self] at hsome
  exact absurd hsome (by simp)

/-- The value of a key among the entries that are kept.

**Proof sketch.** Induction on the entries. An entry of the key that is not kept leaves none behind,
since no key occurs twice. -/
theorem get?_filter {t : Table κ α} (h : t.IsProper) (p : κ → α → Bool) (k : κ) :
    (t.filter p).get? k = (t.get? k).filter (p k) := by
  obtain ⟨es⟩ := t
  simp only [get?, filter]
  induction es with
  | nil => rfl
  | cons e es ih =>
    obtain ⟨k', a⟩ := e
    obtain ⟨hnotin, hes⟩ := List.nodup_cons.mp h
    have ih := ih hes
    by_cases hk : k' = k
    · subst hk
      have hnone : find? k' es = none := (find?_eq_none_iff k' es).mpr hnotin
      rw [hnone] at ih
      by_cases hp : p k' a = true
      · simp [find?, hp, Option.filter_some]
      · simp [find?, hp, ih, Option.filter_some]
    · by_cases hp : p k' a = true
      · simp [find?, hp, hk, ih]
      · simp [find?, hp, hk, ih]

end ConversionScheduler.Table
