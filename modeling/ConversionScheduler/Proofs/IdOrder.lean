import ConversionScheduler.Store.Basic
import ConversionScheduler.Text.Utf8
import Mathlib.Data.List.Sort
import Mathlib.Data.String.Basic
import Mathlib.Tactic.Common
/-!
# The order of ids

Stores list ids in ascending order. Ids are compared character by character, which gives the same
order as comparing their UTF-8 octets; so the lists are in ascending order for whoever compares
octets, and there is only one such list with given members.

## Main results

* `Utf8.utf8EncodeChar_lt`, `Utf8.encode_lt_encode` — characters and texts are ordered as their
  octets are.
* `sortIds_eq_insertionSort` — ids are sorted by insertion.
* `sortIds_perm`, `sortIds_strict` — sorting keeps the ids and puts them in order.
* `eq_of_ascending` — two lists in strictly ascending order with the same members are the same.
-/

namespace ConversionScheduler.Utf8

/-- Octets are compared as numbers, the first one first. -/
lemma ofNat_cons_lt {a b : Nat} (ha : a < 256) (hb : b < 256) (s t : List UInt8) :
    UInt8.ofNat a :: s < UInt8.ofNat b :: t ↔ a < b ∨ a = b ∧ s < t := by
  rw [List.cons_lt_cons_iff, UInt8.lt_iff_toNat_lt, ← UInt8.toNat_inj, UInt8.toNat_ofNat',
    UInt8.toNat_ofNat', Nat.mod_eq_of_lt (by simpa using ha), Nat.mod_eq_of_lt (by simpa using hb)]

/-- **Characters are ordered as their octets are**, whatever follows them.

**Proof sketch.** A longer encoding begins with a greater octet. Encodings of the same length are
the digits of the two code points to the base 64, most significant first. -/
lemma utf8EncodeChar_lt {c d : Char} (h : c < d) (s t : List UInt8) :
    String.utf8EncodeChar c ++ s < String.utf8EncodeChar d ++ t := by
  have hval : c.val.toNat < d.val.toNat := h
  have hd : d.val.toNat < 1114112 := by
    have := d.valid
    rcases this with h | h
    · have h' : d.val.toNat < 0xd800 := h
      omega
    · exact h.2
  unfold String.utf8EncodeChar
  generalize c.val.toNat = m at *
  generalize d.val.toNat = n at *
  -- each octet is a digit of the code point to the base 64, so the quotients have to be compared
  have hm : m / 64 / 64 = m / 4096 ∧ m / 4096 / 64 = m / 262144 := by omega
  have hn : n / 64 / 64 = n / 4096 ∧ n / 4096 / 64 = n / 262144 := by omega
  obtain ⟨hm64, hm4096⟩ := hm
  obtain ⟨hn64, hn4096⟩ := hn
  have hm8 : m / 262144 % 8 = m / 262144 := by omega
  have hn8 : n / 262144 % 8 = n / 262144 := by omega
  have h262144 : m / 262144 ≤ n / 262144 := Nat.div_le_div_right (Nat.le_of_lt hval)
  have h4096 : m / 4096 ≤ n / 4096 := Nat.div_le_div_right (Nat.le_of_lt hval)
  have h64 : m / 64 ≤ n / 64 := Nat.div_le_div_right (Nat.le_of_lt hval)
  dsimp only
  split_ifs <;> simp only [List.cons_append, List.nil_append] <;>
    (repeat rw [ofNat_cons_lt (by omega) (by omega)]) <;> omega

/-- The octets of an array, read off from a position on. -/
lemma toList_loop (bs : ByteArray) (i : Nat) (r : List UInt8) :
    ByteArray.toList.loop bs i r = r.reverse ++ bs.data.toList.drop i := by
  fun_induction ByteArray.toList.loop bs i r with
  | case1 i r h ih =>
    have hi : i < bs.data.size := h
    have hget : bs.get! i = bs.data[i] := by
      show bs.data[i]! = bs.data[i]
      exact getElem!_pos bs.data i hi
    have hdrop := List.drop_eq_getElem_cons (l := bs.data.toList) (i := i) (by simpa using hi)
    rw [ih, hget, hdrop]
    simp
  | case2 i r h =>
    have hi : bs.data.toList.length ≤ i := by
      have : ¬ i < bs.data.size := h
      simpa using this
    rw [List.drop_eq_nil_of_le hi, List.append_nil]

/-- The octets of a text are those of its characters. -/
lemma encode_eq (s : String) : encode s = s.toList.flatMap String.utf8EncodeChar := by
  rw [encode, String.toUTF8_eq_toByteArray, ← String.utf8Encode_toList, ByteArray.toList,
    toList_loop, List.utf8Encode, List.toList_data_toByteArray]
  rfl

/-- The order of lists of characters.

**Proof sketch.** Induction on the lists. Where the characters differ, so do their octets, in the
same order; a character has at least one octet, so a list that ends first still comes first. -/
lemma flatMap_lt {cs ds : List Char} (h : cs < ds) :
    cs.flatMap String.utf8EncodeChar < ds.flatMap String.utf8EncodeChar := by
  induction cs generalizing ds with
  | nil =>
    cases ds with
    | nil => exact absurd h (List.lt_irrefl [])
    | cons d ds =>
      have hne : String.utf8EncodeChar d ≠ [] := String.utf8EncodeChar_ne_nil
      rw [List.flatMap_nil, List.flatMap_cons]
      cases hd : String.utf8EncodeChar d with
      | nil => exact absurd hd hne
      | cons b bs => exact List.nil_lt_cons _ _
  | cons c cs ih =>
    cases ds with
    | nil => exact absurd h (List.not_lt_nil _)
    | cons d ds =>
      rw [List.flatMap_cons, List.flatMap_cons]
      rcases List.cons_lt_cons_iff.mp h with hcd | ⟨rfl, hcs⟩
      · exact utf8EncodeChar_lt hcd _ _
      · exact List.append_left_lt (ih hcs)

/-- **Texts are ordered as their octets are.** -/
theorem encode_lt_encode {s t : String} (h : s < t) : encode s < encode t := by
  rw [encode_eq, encode_eq]
  exact flatMap_lt h

/-- A text is determined by its octets. -/
theorem encode_injective {s t : String} (h : encode s = encode t) : s = t := by
  have hle {s t : String} (h : encode s = encode t) : s ≤ t :=
    String.not_lt.mp fun hlt => absurd (encode_lt_encode hlt) (h ▸ List.lt_irrefl _)
  exact String.le_antisymm (hle h) (hle h.symm)

end ConversionScheduler.Utf8

namespace ConversionScheduler

/-! ## Sorting -/

/-- Ids are put at their places as in an insertion sort. -/
lemma insertId_eq_orderedInsert (id : String) (ids : List String) :
    insertId id ids = ids.orderedInsert (· ≤ ·) id := by
  induction ids with
  | nil => rfl
  | cons id' ids ih => rw [insertId, List.orderedInsert_cons, ih]

/-- **Ids are put in order by an insertion sort**, so what is known of that sort holds of them. -/
theorem sortIds_eq_insertionSort (ids : List String) :
    sortIds ids = ids.insertionSort (· ≤ ·) := by
  induction ids with
  | nil => rfl
  | cons id ids ih =>
    rw [List.insertionSort_cons, ← ih, ← insertId_eq_orderedInsert]
    rfl

/-- Sorting keeps the ids. -/
theorem sortIds_perm (ids : List String) : (sortIds ids).Perm ids := by
  rw [sortIds_eq_insertionSort]
  exact List.perm_insertionSort _ ids

/-- The sorted ids are the ids there were. -/
@[simp] lemma mem_sortIds {id : String} {ids : List String} : id ∈ sortIds ids ↔ id ∈ ids :=
  (sortIds_perm ids).mem_iff

/-- Different ids come out in strictly ascending order. -/
theorem sortIds_strict {ids : List String} (h : ids.Nodup) : (sortIds ids).Pairwise (· < ·) := by
  have hnodup : (sortIds ids).Nodup := (sortIds_perm ids).nodup_iff.mpr h
  have hle : (sortIds ids).Pairwise (· ≤ ·) := by
    rw [sortIds_eq_insertionSort]
    exact List.pairwise_insertionSort _ ids
  exact hle.imp₂ (fun a b hab hne => lt_of_le_of_ne hab hne) hnodup

/-- The order of the octets, which is that of the ids in a list. -/
instance : Std.Asymm fun id id' : String => Utf8.encode id < Utf8.encode id' where
  asymm _ _ := List.lt_asymm

/-- **Ids in the order of their octets are determined by which ids they are.** -/
theorem eq_of_ascending {ids ids' : List String}
    (hids : ids.Pairwise fun i j => Utf8.encode i < Utf8.encode j)
    (hids' : ids'.Pairwise fun i j => Utf8.encode i < Utf8.encode j)
    (h : ∀ id, id ∈ ids ↔ id ∈ ids') : ids = ids' :=
  hids.eq_of_mem_iff hids' h

end ConversionScheduler
