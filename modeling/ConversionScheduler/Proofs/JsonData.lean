import ConversionScheduler.Proofs.JsonText
/-!
# Free-form data survives its text

Reading free-form data judges what the grammar leaves open: how deep arrays and objects are nested,
how large the numbers are, and which of two members with one key counts. Data within these limits is
read back as it was written.

## Main definitions

* `Json.Value.isReadable` — the limits.

## Main results

* `Json.value?_ofValue` — a value within the limits is read off its tree.
* `Json.value?_render` — a value within the limits is read back from its text.
-/

namespace ConversionScheduler.Json

/-- Whether the keys of an object are in ascending order. -/
def keysAscend : List (String × Value) → Bool
  | [] => true
  | (k, _) :: ms => ms.all (fun m => k < m.1) && keysAscend ms

mutual

/-- Whether a value can be read as free-form data: at most `depth` arrays and objects are nested,
its numbers are integers of 64 bits, and the keys of its objects are in ascending order. -/
def Value.isReadable : Nat → Value → Bool
  | _, .null | _, .bool _ | _, .string _ => true
  | _, .number (.integer n) => -9223372036854775808 ≤ n && n < 18446744073709551616
  | _, .number (.double _) => false
  | 0, .array _ | 0, .object _ => false
  | depth + 1, .array vs => allReadable depth vs
  | depth + 1, .object ms => keysAscend ms && membersReadable depth ms

/-- Whether all values of a list can be read. -/
def allReadable : Nat → List Value → Bool
  | _, [] => true
  | depth, v :: vs => v.isReadable depth && allReadable depth vs

/-- Whether the values of all members of an object can be read. -/
def membersReadable : Nat → List (String × Value) → Bool
  | _, [] => true
  | depth, (_, v) :: ms => v.isReadable depth && membersReadable depth ms

end

mutual

/-- A value that can be read back has no number but integers in it. -/
lemma isIntegral_of_isReadable : ∀ (v : Value) (depth : Nat), v.isReadable depth = true →
    v.isIntegral = true
  | .null, _, _ | .bool _, _, _ | .string _, _, _ | .number (.integer _), _, _ => by
    simp [Value.isIntegral]
  | .number (.double _), _, h => by simp [Value.isReadable] at h
  | .array vs, 0, h | .object ms, 0, h => by simp [Value.isReadable] at h
  | .array vs, depth + 1, h => by
    simpa [Value.isIntegral] using allIntegral_of_allReadable vs depth h
  | .object ms, depth + 1, h => by
    have hms := (Bool.and_eq_true_iff.mp h).2
    simpa [Value.isIntegral] using membersIntegral_of_membersReadable ms depth hms

/-- Nor have the items of a list that can be read back. -/
lemma allIntegral_of_allReadable : ∀ (vs : List Value) (depth : Nat),
    allReadable depth vs = true → allIntegral vs = true
  | [], _, _ => by simp [allIntegral]
  | v :: vs, depth, h => by
    obtain ⟨hv, hvs⟩ : v.isReadable depth = true ∧ allReadable depth vs = true := by
      simpa [allReadable] using h
    simp [allIntegral, isIntegral_of_isReadable v depth hv, allIntegral_of_allReadable vs depth hvs]

/-- Nor have the members of an object that can be read back. -/
lemma membersIntegral_of_membersReadable : ∀ (ms : List (String × Value)) (depth : Nat),
    membersReadable depth ms = true → membersIntegral ms = true
  | [], _, _ => by simp [membersIntegral]
  | (_, v) :: ms, depth, h => by
    obtain ⟨hv, hms⟩ : v.isReadable depth = true ∧ membersReadable depth ms = true := by
      simpa [membersReadable] using h
    simp [membersIntegral, isIntegral_of_isReadable v depth hv,
      membersIntegral_of_membersReadable ms depth hms]

end

/-- A member with the greatest key comes last. -/
lemma insertMember_append {k : String} {v : Value} {ms : List (String × Value)}
    (h : ∀ m ∈ ms, m.1 < k) : Value.insertMember k v ms = ms ++ [(k, v)] := by
  induction ms with
  | nil => rfl
  | cons m ms ih =>
    have hm : m.1 < k := h m (by simp)
    have hnlt : ¬ k < m.1 := String.lt_asymm hm
    have hne : k ≠ m.1 := by
      rintro rfl
      exact String.lt_irrefl _ hm
    rw [Value.insertMember, if_neg hnlt, if_neg hne, ih fun x hx => h x (by simp [hx])]
    rfl

/-- Members in ascending order are appended one after the other. -/
lemma foldl_insertMember (ms acc : List (String × Value)) (h : keysAscend ms = true)
    (hacc : ∀ a ∈ acc, ∀ m ∈ ms, a.1 < m.1) :
    ms.foldl (fun acc m => Value.insertMember m.1 m.2 acc) acc = acc ++ ms := by
  induction ms generalizing acc with
  | nil => simp
  | cons m ms ih =>
    obtain ⟨hm, hms⟩ := Bool.and_eq_true_iff.mp h
    rw [List.foldl_cons, insertMember_append fun a ha => hacc a ha m (by simp), ih _ hms]
    · simp
    · intro a ha x hx
      rcases List.mem_append.mp ha with ha | ha
      · exact hacc a ha x (by simp [hx])
      · obtain rfl : a = m := by simpa using ha
        simpa using List.all_eq_true.mp hm x hx

/-- Members whose keys are in ascending order make the object with these members. -/
lemma ofMembers_of_keysAscend {ms : List (String × Value)} (h : keysAscend ms = true) :
    Value.ofMembers ms = .object ms := by
  rw [Value.ofMembers, foldl_insertMember ms [] h (by simp), List.nil_append]

mutual

/-- **A value that can be read is read off its tree.** -/
theorem value?_ofValue : ∀ (v : Value) (depth : Nat), v.isReadable depth = true →
    (Tree.ofValue v).value? depth = some v
  | .null, _, _ | .bool _, _, _ | .string _, _, _ => by simp [Tree.ofValue, Tree.value?]
  | .number (.integer n), _, h => by
    obtain ⟨hmin, hmax⟩ : -9223372036854775808 ≤ n ∧ n < 18446744073709551616 := by
      simpa [Value.isReadable] using h
    simp [Tree.ofValue, Tree.value?, number?_ofInt hmin hmax]
  | .number (.double _), _, h => by simp [Value.isReadable] at h
  | .array vs, 0, h | .object ms, 0, h => by simp [Value.isReadable] at h
  | .array vs, depth + 1, h => by
    simp [Tree.ofValue, Tree.value?, values?_treesOf vs depth h]
  | .object ms, depth + 1, h => by
    obtain ⟨hkeys, hms⟩ := Bool.and_eq_true_iff.mp h
    simp [Tree.ofValue, Tree.value?, memberValues?_memberTrees ms depth hms,
      ofMembers_of_keysAscend hkeys]

/-- The values of a list are read back from their trees. -/
theorem values?_treesOf : ∀ (vs : List Value) (depth : Nat), allReadable depth vs = true →
    values? depth (treesOf vs) = some vs
  | [], _, _ => by simp [treesOf, values?]
  | v :: vs, depth, h => by
    obtain ⟨hv, hvs⟩ : v.isReadable depth = true ∧ allReadable depth vs = true := by
      simpa [allReadable] using h
    simp [treesOf, values?, value?_ofValue v depth hv, values?_treesOf vs depth hvs]

/-- The members of an object are read back from their trees. -/
theorem memberValues?_memberTrees : ∀ (ms : List (String × Value)) (depth : Nat),
    membersReadable depth ms = true → memberValues? depth (memberTrees ms) = some ms
  | [], _, _ => by simp [memberTrees, memberValues?]
  | (k, v) :: ms, depth, h => by
    obtain ⟨hv, hms⟩ : v.isReadable depth = true ∧ membersReadable depth ms = true := by
      simpa [membersReadable] using h
    simp [memberTrees, memberValues?, value?_ofValue v depth hv,
      memberValues?_memberTrees ms depth hms]

end

/-- **A value that can be read is read back from its text.** -/
theorem value?_render {v : Value} (h : v.isReadable maxDepth = true) :
    value? (render v) = some v := by
  rw [value?, ofString?_render (isIntegral_of_isReadable v maxDepth h), Option.bind_some,
    value?_ofValue v maxDepth h]

end ConversionScheduler.Json
