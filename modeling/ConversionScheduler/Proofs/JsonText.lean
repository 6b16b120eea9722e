import ConversionScheduler.Json.Printer
import ConversionScheduler.Json.Tree
import ConversionScheduler.Proofs.Digits
/-!
# The tree of a written value

The grammar gives a written value back: each character of a string is read off its escape, each
integer off its digits, and each array and object off its items and members, whatever follows. Only
a number needs to know what follows, since a digit or a point would make it longer. Doubles are left
out.

## Main definitions

* `Json.Value.isIntegral` — the values whose numbers are integers.
* `Json.Tree.ofValue` — the tree of the text of such a value.
* `Json.EndsNumber` — what may follow a number.

## Main results

* `Json.stringAfter?_escaped`, `Json.number?_integer` — strings and integers.
* `Json.tree?_renderChars` — the tree of a value is read off its text.
* `Json.ofString?_render` — the same for a text that is nothing else.
* `Json.ofString?_render_object` — an object whose first members are such values.
-/

namespace ConversionScheduler.Json

open Decimal (digits isDigit ofDigits)

/-! ## Strings -/

/-- The value of a hexadecimal digit is read back from its character. -/
lemma hexValue_hexDigit {d : Nat} (h : d < 16) : hexValue (some (hexDigit d)) = some d := by
  have : ∀ d : Fin 16, hexValue (some (hexDigit d.val)) = some d.val := by decide
  exact this ⟨d, h⟩

/-- The four hexadecimal digits of a control character are read back as its number. -/
lemma hex4_control {n : Nat} (h : n < 32) :
    hex4 (some '0') (some '0') (some (hexDigit (n / 16))) (some (hexDigit (n % 16))) = some n := by
  have hzero : hexValue (some '0') = some 0 := by decide
  have hhigh := hexValue_hexDigit (d := n / 16) (by omega)
  have hlow := hexValue_hexDigit (d := n % 16) (by omega)
  simp only [hex4, hzero, hhigh, hlow, Option.bind_eq_bind, Option.bind_some, Option.pure_def,
    Option.some.injEq]
  omega

/-- A character is read back from the form in which it stands in a string.

**Proof sketch.** Cases in the order of `escape`. The five short escapes and the two control
characters with one are computed; any other control character stands as four hexadecimal digits,
whose value is no surrogate; a character that stands for itself is neither a quotation mark, a
backslash nor a control character, so the reader takes its last branch. -/
lemma stringAfter?_escape (c : Char) (s : List Glyph) :
    stringAfter? none ((escape c).map some ++ s) = (stringAfter? none s).map (prepend none c) := by
  unfold escape
  split
  · subst_vars
    simp [stringAfter?, unescape]
  split
  · subst_vars
    simp [stringAfter?, unescape]
  split
  · subst_vars
    simp [stringAfter?, unescape]
  split
  · subst_vars
    simp [stringAfter?, unescape]
  split
  · subst_vars
    simp [stringAfter?, unescape]
  split
  · rename_i h
    have hc : c = '\x08' := Char.toNat_inj.mp h
    subst hc
    simp [stringAfter?, unescape]
  split
  · rename_i h
    have hc : c = '\x0c' := Char.toNat_inj.mp h
    subst hc
    simp [stringAfter?, unescape]
  split
  · rename_i h
    have hlow : ¬ (0xD800 ≤ c.toNat ∧ c.toNat < 0xDC00) := by omega
    have hhigh : ¬ (0xDC00 ≤ c.toNat ∧ c.toNat < 0xE000) := by omega
    simp only [List.map_cons, List.map_nil, List.cons_append, List.nil_append, stringAfter?,
      hex4_control h, if_neg hlow, if_neg hhigh, Char.ofNat_toNat]
  · rename_i hquote hslash _ _ _ _ _ hcontrol
    simp only [List.map_cons, List.map_nil, List.cons_append, List.nil_append]
    -- all that is left is the last branch of the reader, with its guard
    have hguard : ¬ ((decide (c.toNat < 32) || decide (c = '\\')) = true) := by
      rw [Bool.or_eq_true, decide_eq_true_eq, decide_eq_true_eq]
      exact fun h => h.elim hcontrol hslash
    rw [stringAfter?.eq_def]
    split
    case h_1 heq => cases heq
    case h_2 heq => cases heq
    case h_3 heq => exact absurd (Option.some.inj (List.cons.inj heq).1) hquote
    case h_4 heq => exact absurd (Option.some.inj (List.cons.inj heq).1) hslash
    case h_5 heq => exact absurd (Option.some.inj (List.cons.inj heq).1) hslash
    case h_6 heq =>
      obtain ⟨hc, rfl⟩ := List.cons.inj heq
      obtain rfl := Option.some.inj hc
      rw [if_neg hguard]

/-- The characters of a string are read back from their escaped form, up to its end. -/
lemma stringAfter?_escaped (cs : List Char) (s : List Glyph) :
    stringAfter? none ((escaped cs).map some ++ s) = some (some cs, s) := by
  induction cs with
  | nil => simp [escaped, stringAfter?]
  | cons c cs ih =>
    rw [escaped, List.map_append, List.append_assoc, stringAfter?_escape, ih]
    rfl

/-! ## Numbers -/

/-- What may follow a number: nothing that would make it longer. -/
def EndsNumber (s : List Glyph) : Prop :=
  ∀ c, s.head? = some (some c) → isDigit c = false ∧ c ≠ '.' ∧ c ≠ 'e' ∧ c ≠ 'E'

/-- Digits are read as far as they go, if no further one follows. -/
lemma glyphDigits_append {ds : List Char} {s : List Glyph} (hd : ∀ c ∈ ds, isDigit c = true)
    (hs : EndsNumber s) : glyphDigits (ds.map some ++ s) = (ds, s) := by
  induction ds with
  | nil =>
    cases s with
    | nil => rfl
    | cons g s =>
      cases g with
      | none => rfl
      | some c => simp [glyphDigits, (hs c rfl).1]
  | cons c ds ih =>
    have hc := hd c (by simp)
    simp [glyphDigits, hc, ih fun x hx => hd x (by simp [hx])]

/-- The parts of the text of an integer. -/
def NumberText.ofInt (n : Int) : NumberText := ⟨n < 0, digits n.natAbs, [], none⟩

/-- The digits of a number are read back as those of its integral part, with neither a fraction nor
an exponent.

**Proof sketch.** The run of digits is read whole, since what follows ends a number. It has no
leading zero unless it is that zero alone, and the character behind it begins neither a fraction nor
an exponent. -/
lemma unsigned?_digits (negative : Bool) (n : Nat) {s : List Glyph} (hs : EndsNumber s) :
    unsigned? negative ((digits n).map some ++ s) = some (⟨negative, digits n, [], none⟩, s) := by
  have hdigits : ∀ c ∈ digits n, isDigit c = true := fun c hc => Decimal.isDigit_of_mem_digits hc
  have hread := glyphDigits_append hdigits hs
  have hzero : ¬ ((digits n).head? = some '0' ∧ (digits n).length > 1) := by
    rintro ⟨hhead, hlen⟩
    rw [Decimal.head_digits hhead, digits] at hlen
    simp at hlen
  have hexp : exponent? s = some (none, s) := by
    cases s with
    | nil => rfl
    | cons g s =>
      cases g with
      | none => rfl
      | some c => simp [exponent?, hs c rfl]
  simp only [unsigned?, digits1?, hread, List.isEmpty_iff, Decimal.digits_ne_nil, if_false,
    Option.bind_eq_bind, Option.bind_some, if_neg hzero]
  cases s with
  | nil => simp [hexp]
  | cons g s =>
    cases g with
    | none => simp [hexp]
    | some c =>
      have hpoint := (hs c rfl).2.1
      split
      · rename_i heq
        simp_all
      · simp [hexp]

/-- The digits of a number begin with a digit. -/
lemma exists_digits_eq (n : Nat) : ∃ c cs, digits n = c :: cs ∧ isDigit c = true := by
  cases h : digits n with
  | nil => exact absurd h (Decimal.digits_ne_nil n)
  | cons c cs => exact ⟨c, cs, rfl, Decimal.isDigit_of_mem_digits (n := n) (by rw [h]; simp)⟩

/-- The text of an integer is read back as that of this integer. -/
lemma number?_integer (n : Int) {s : List Glyph} (hs : EndsNumber s) :
    number? ((Decimal.integer n).map some ++ s) = some (NumberText.ofInt n, s) := by
  cases n with
  | ofNat m =>
    have hread := unsigned?_digits false m hs
    obtain ⟨c, cs, hcs, hc⟩ := exists_digits_eq m
    have hminus : c ≠ '-' := by rintro rfl; exact absurd hc (by decide)
    have hsign : decide (Int.ofNat m < 0) = false := by simp
    rw [Decimal.integer, NumberText.ofInt, hsign, Int.natAbs_ofNat', ← hread, hcs, number?]
    simpa using fun h => absurd h hminus
  | negSucc m =>
    have hread := unsigned?_digits true (m + 1) hs
    have hsign : decide (Int.negSucc m < 0) = true := by simp [Int.negSucc_lt_zero]
    rw [Decimal.integer, NumberText.ofInt, hsign]
    exact hread

/-- **An integer that 64 bits hold is read back from its text.** -/
lemma number?_ofInt {n : Int} (hmin : -9223372036854775808 ≤ n)
    (hmax : n < 18446744073709551616) : (NumberText.ofInt n).number? = some (.integer n) := by
  simp only [NumberText.number?, NumberText.ofInt, Decimal.ofDigits_digits, List.isEmpty_nil,
    Option.isNone_none, true_and]
  rw [if_pos (by omega)]
  by_cases h : n < 0
  · have habs : -(n.natAbs : Int) = n := by omega
    simp only [h, decide_true, Bool.not_true, Bool.false_eq_true, if_false, habs]
    exact if_pos (by omega)
  · have habs : (n.natAbs : Int) = n := by omega
    simp [h, habs]

/-! ## Trees -/

mutual

/-- Whether all numbers in a value are integers. -/
def Value.isIntegral : Value → Bool
  | .number (.double _) => false
  | .array vs => allIntegral vs
  | .object ms => membersIntegral ms
  | _ => true

/-- Whether all numbers in a list of values are integers. -/
def allIntegral : List Value → Bool
  | [] => true
  | v :: vs => v.isIntegral && allIntegral vs

/-- Whether all numbers in the members of an object are integers. -/
def membersIntegral : List (String × Value) → Bool
  | [] => true
  | (_, v) :: ms => v.isIntegral && membersIntegral ms

end

mutual

/-- The tree of the text of a value whose numbers are integers. -/
def Tree.ofValue : Value → Tree
  | .null => .null
  | .bool b => .bool b
  | .number (.integer n) => .number (NumberText.ofInt n)
  | .number (.double _) => .null
  | .string s => .string (some s)
  | .array vs => .array (treesOf vs)
  | .object ms => .object (memberTrees ms)

/-- The trees of the texts of some values. -/
def treesOf : List Value → List Tree
  | [] => []
  | v :: vs => Tree.ofValue v :: treesOf vs

/-- The members of the tree of an object. -/
def memberTrees : List (String × Value) → List (Option String × Tree)
  | [] => []
  | (k, v) :: ms => (some k, Tree.ofValue v) :: memberTrees ms

end

/-- Whether a value may begin with a character. -/
def startsValue (c : Char) : Bool :=
  isDigit c || c = '-' || c = '"' || c = '[' || c = '\x7b' || c = 'n' || c = 't' || c = 'f'

/-- The text of a value begins with a character at which a value can begin. -/
lemma exists_renderChars_eq {v : Value} (hv : v.isIntegral = true) :
    ∃ c cs, renderChars v = c :: cs ∧ startsValue c = true := by
  have hstart : ∀ c, isDigit c = true → startsValue c = true := fun c hc => by
    simp [startsValue, hc]
  cases v with
  | null => exact ⟨'n', _, by rw [renderChars], by decide⟩
  | bool b =>
    cases b with
    | true => exact ⟨'t', _, by rw [renderChars], by decide⟩
    | false => exact ⟨'f', _, by rw [renderChars], by decide⟩
  | number n =>
    cases n with
    | double d => exact absurd hv (by simp [Value.isIntegral])
    | integer n =>
      rw [renderChars, renderNumber]
      cases n with
      | ofNat m =>
        obtain ⟨c, cs, hcs, hc⟩ := exists_digits_eq m
        exact ⟨c, cs, hcs, hstart c hc⟩
      | negSucc m => exact ⟨'-', _, rfl, by decide⟩
  | string s => exact ⟨'"', _, by rw [renderChars]; rfl, by decide⟩
  | array vs =>
    cases vs with
    | nil => exact ⟨'[', _, by rw [renderChars], by decide⟩
    | cons v vs => exact ⟨'[', _, by rw [renderChars], by decide⟩
  | object ms =>
    cases ms with
    | nil => exact ⟨'\x7b', _, by rw [renderChars], by decide⟩
    | cons m ms => exact ⟨'\x7b', _, by rw [renderChars], by decide⟩

/-- A character at which a value begins is no blank, so that nothing is skipped in front of it. -/
lemma skipSpace_cons {c : Char} (hc : startsValue c = true) (s : List Glyph) :
    skipSpace (some c :: s) = some c :: s := by
  have hspace : isSpace (some c) = false := by
    have h : ∀ d : Char, startsValue d = true → d ≠ ' ' ∧ d ≠ '\n' ∧ d ≠ '\r' ∧ d ≠ '\t' := by
      rintro d hd
      refine ⟨?_, ?_, ?_, ?_⟩ <;> (rintro rfl; exact absurd hd (by decide))
    obtain ⟨h1, h2, h3, h4⟩ := h c hc
    simp [isSpace, h1, h2, h3, h4]
  rw [skipSpace, List.dropWhile_cons, hspace]
  rfl

/-- What follows an item or a member ends a number. -/
lemma endsNumber_cons {c : Char} (hc : c = ',' ∨ c = ']' ∨ c = '\x7d') (s : List Glyph) :
    EndsNumber (some c :: s) := by
  rintro d hd
  have hcd : c = d := by simpa using hd
  subst hcd
  rcases hc with rfl | rfl | rfl <;> decide

/-- The end of the text ends a number. -/
lemma endsNumber_nil : EndsNumber [] := by
  intro c hc
  exact absurd hc (by simp)

/-- A number is told from the other values by its first character.

**Proof sketch.** The text begins with a digit or a minus sign, so every branch of the reader before
the one of numbers is excluded by that character, and the number is what `number?_integer` reads. -/
lemma tree?_number (fuel : Nat) (n : Int) {s : List Glyph} (hs : EndsNumber s) :
    tree? (fuel + 1) ((Decimal.integer n).map some ++ s) =
      some (.number (NumberText.ofInt n), s) := by
  have hread := number?_integer n hs
  obtain ⟨c, cs, hcs, hc⟩ : ∃ c cs, Decimal.integer n = c :: cs ∧ (isDigit c = true ∨ c = '-') := by
    cases n with
    | ofNat m =>
      obtain ⟨c, cs, hcs, hc⟩ := exists_digits_eq m
      exact ⟨c, cs, hcs, .inl hc⟩
    | negSucc m => exact ⟨'-', _, rfl, .inr rfl⟩
  have hstart : startsValue c = true := by
    rcases hc with hc | rfl
    · simp [startsValue, hc]
    · decide
  have hne : c ≠ '"' ∧ c ≠ '[' ∧ c ≠ '\x7b' ∧ c ≠ 'n' ∧ c ≠ 't' ∧ c ≠ 'f' := by
    refine ⟨?_, ?_, ?_, ?_, ?_, ?_⟩ <;>
      (rintro rfl; exact absurd hc (by decide))
  obtain ⟨h1, h2, h3, h4, h5, h6⟩ := hne
  rw [hcs, List.map_cons, List.cons_append] at hread ⊢
  rw [tree?, skipSpace_cons hstart]
  split <;> simp_all

/-- The text of an array from behind its bracket. -/
def renderList : List Value → List Char
  | [] => [']']
  | v :: vs => renderChars v ++ renderItems vs

/-- The text of an object from behind its brace. -/
def renderObject : List (String × Value) → List Char
  | [] => ['\x7d']
  | (k, v) :: ms => quote k ++ ':' :: (renderChars v ++ renderMembers ms)

/-- Behind an item comes the end of the array, or a comma and the other items. -/
lemma renderItems_eq (vs : List Value) :
    renderItems vs = if vs = [] then [']'] else ',' :: renderList vs := by
  cases vs <;> simp [renderItems, renderList]

/-- Behind a member comes the end of the object, or a comma and the other members. -/
lemma renderMembers_eq (ms : List (String × Value)) :
    renderMembers ms = if ms = [] then ['\x7d'] else ',' :: renderObject ms := by
  cases ms <;> simp [renderMembers, renderObject]

/-- A member is read off its text if its value is and more members follow. -/
lemma members?_comma (k : String) {fuel : Nat} {s s' : List Glyph} {t : Tree}
    (htree : tree? fuel s = some (t, some ',' :: s')) :
    members? (fuel + 1) ((quote k).map some ++ some ':' :: s) =
      (members? fuel s').map fun r => ((some k, t) :: r.1, r.2) := by
  have hkey := stringAfter?_escaped k.toList
  simp only [quote, List.map_cons, List.cons_append]
  rw [members?, skipSpace_cons (by decide)]
  simp [string?, hkey, htree, skipSpace, isSpace]

mutual

/-- **The tree of a value is read off its text.**

**Proof sketch.** Induction on the value, together with the items of arrays and the members of
objects. The fuel exceeds the length of the text, and a part is at least one bracket shorter than
the whole. A text that is not empty behind its opening bracket begins there with the first character
of a value or a key, so it is not taken for the closing bracket. -/
theorem tree?_renderChars : ∀ (v : Value) (fuel : Nat) (s : List Glyph), v.isIntegral = true →
    (renderChars v).length < fuel → EndsNumber s →
    tree? fuel ((renderChars v).map some ++ s) = some (Tree.ofValue v, s)
  | _, 0, _, _, hlen, _ => absurd hlen (Nat.not_lt_zero _)
  | .null, fuel + 1, s, _, _, _ => by
    simp [renderChars, tree?, skipSpace, isSpace, word?, Tree.ofValue]
  | .bool true, fuel + 1, s, _, _, _ => by
    simp [renderChars, tree?, skipSpace, isSpace, word?, Tree.ofValue]
  | .bool false, fuel + 1, s, _, _, _ => by
    simp [renderChars, tree?, skipSpace, isSpace, word?, Tree.ofValue]
  | .number (.integer n), fuel + 1, s, _, _, hs => by
    rw [renderChars, renderNumber, tree?_number fuel n hs, Tree.ofValue]
  | .number (.double d), fuel + 1, s, hv, _, _ => absurd hv (by simp [Value.isIntegral])
  | .string x, fuel + 1, s, _, _, _ => by
    simp [renderChars, quote, tree?, skipSpace, isSpace, string?, stringAfter?_escaped,
      Tree.ofValue]
  | .array [], fuel + 1, s, _, _, _ => by
    simp [renderChars, tree?, skipSpace, isSpace, Tree.ofValue, treesOf]
  | .array (v :: vs), fuel + 1, s, hv, hlen, hs => by
    have hitems := items?_renderList (v :: vs) fuel s (by simpa [Value.isIntegral] using hv)
      (by simp) (by simpa [renderChars, renderList] using hlen)
    obtain ⟨c, cs, hcs, hc⟩ := exists_renderChars_eq (v := v)
      (by simp [Value.isIntegral, allIntegral] at hv; exact hv.1)
    -- behind the bracket a value begins, so the array is not taken for an empty one
    have hne : c ≠ ']' := by rintro rfl; exact absurd hc (by decide)
    have hskip := skipSpace_cons hc (cs.map some ++ ((renderItems vs).map some ++ s))
    simp only [renderList, hcs, List.map_append, List.map_cons, List.append_assoc,
      List.cons_append] at hitems
    simp only [renderChars, hcs, List.map_append, List.map_cons, List.append_assoc,
      List.cons_append]
    rw [tree?, skipSpace_cons (by decide)]
    simp only [hskip]
    split
    · rename_i heq
      exact absurd (Option.some.inj (List.cons.inj heq).1) hne
    · rw [hitems, Option.map_some, Tree.ofValue]
  | .object [], fuel + 1, s, _, _, _ => by
    simp [renderChars, tree?, skipSpace, isSpace, Tree.ofValue, memberTrees]
  | .object ((k, v) :: ms), fuel + 1, s, hv, hlen, hs => by
    have hmembers := members?_renderObject ((k, v) :: ms) fuel s
      (by simpa [Value.isIntegral] using hv) (by simp)
      (by simpa [renderChars, renderObject] using hlen)
    have hskip := skipSpace_cons (c := '"') (by decide)
      ((escaped k.toList).map some ++ some ':' :: ((renderChars v).map some ++
        ((renderMembers ms).map some ++ s)))
    simp only [renderObject, quote, List.map_append, List.map_cons, List.append_assoc,
      List.cons_append] at hmembers
    simp only [renderChars, quote, List.map_append, List.map_cons, List.append_assoc,
      List.cons_append]
    rw [tree?, skipSpace_cons (by decide)]
    simp only [hskip]
    split
    · rename_i heq
      exact absurd (Option.some.inj (List.cons.inj heq).1) (by decide)
    · rw [hmembers, Option.map_some, Tree.ofValue]

/-- The items of an array are read off its text from behind the bracket.

**Proof sketch.** The first item is read by `tree?_renderChars`; behind it stands the closing
bracket, or a comma and the rest of the list, for which the statement holds by induction. -/
theorem items?_renderList : ∀ (vs : List Value) (fuel : Nat) (s : List Glyph),
    allIntegral vs = true → vs ≠ [] → (renderList vs).length < fuel →
    items? fuel ((renderList vs).map some ++ s) = some (treesOf vs, s)
  | _, 0, _, _, _, hlen => absurd hlen (Nat.not_lt_zero _)
  | [], _, _, _, hne, _ => absurd rfl hne
  | v :: vs, fuel + 1, s, hall, _, hlen => by
    obtain ⟨hv, hvs⟩ : v.isIntegral = true ∧ allIntegral vs = true := by
      simpa [allIntegral] using hall
    simp only [renderList, List.length_append] at hlen
    cases vs with
    | nil =>
      have htree := tree?_renderChars v fuel (some ']' :: s) hv
        (by simp [renderItems] at hlen; omega) (endsNumber_cons (by decide) s)
      simp only [renderList, renderItems, List.map_append, List.map_cons, List.map_nil,
        List.append_assoc, List.cons_append, List.nil_append]
      rw [items?, htree]
      simp [skipSpace, isSpace, treesOf]
    | cons w vs =>
      have hcomma : renderItems (w :: vs) = ',' :: renderList (w :: vs) := by
        simp [renderItems_eq]
      rw [hcomma, List.length_cons] at hlen
      have htree := tree?_renderChars v fuel (some ',' :: ((renderList (w :: vs)).map some ++ s)) hv
        (by omega) (endsNumber_cons (by decide) _)
      have hitems := items?_renderList (w :: vs) fuel s hvs (by simp) (by omega)
      rw [renderList, hcomma]
      simp only [List.map_append, List.map_cons, List.append_assoc, List.cons_append]
      rw [items?, htree]
      simp [skipSpace, isSpace, hitems, treesOf]

/-- The members of an object are read off its text from behind the brace.

**Proof sketch.** As for the items of an array, with the key and its colon read before each
value. -/
theorem members?_renderObject : ∀ (ms : List (String × Value)) (fuel : Nat) (s : List Glyph),
    membersIntegral ms = true → ms ≠ [] → (renderObject ms).length < fuel →
    members? fuel ((renderObject ms).map some ++ s) = some (memberTrees ms, s)
  | _, 0, _, _, _, hlen => absurd hlen (Nat.not_lt_zero _)
  | [], _, _, _, hne, _ => absurd rfl hne
  | (k, v) :: ms, fuel + 1, s, hall, _, hlen => by
    obtain ⟨hv, hms⟩ : v.isIntegral = true ∧ membersIntegral ms = true := by
      simpa [membersIntegral] using hall
    simp only [renderObject, quote, List.length_append, List.length_cons] at hlen
    have hkey := stringAfter?_escaped k.toList
    cases ms with
    | nil =>
      have htree := tree?_renderChars v fuel (some '\x7d' :: s) hv
        (by simp [renderMembers] at hlen; omega) (endsNumber_cons (by decide) s)
      simp only [renderObject, quote, renderMembers, List.map_append, List.map_cons, List.map_nil,
        List.append_assoc, List.cons_append, List.nil_append]
      rw [members?, skipSpace_cons (by decide)]
      simp [string?, hkey, htree, skipSpace, isSpace, memberTrees]
    | cons m ms =>
      have hcomma : renderMembers (m :: ms) = ',' :: renderObject (m :: ms) := by
        simp [renderMembers_eq]
      rw [hcomma, List.length_cons] at hlen
      have htree := tree?_renderChars v fuel
        (some ',' :: ((renderObject (m :: ms)).map some ++ s)) hv (by omega)
        (endsNumber_cons (by decide) _)
      have hmembers := members?_renderObject (m :: ms) fuel s hms (by simp) (by omega)
      rw [renderObject, hcomma]
      simp only [List.map_append, List.map_cons, List.append_assoc, List.cons_append]
      rw [members?_comma k htree, hmembers]
      simp [memberTrees]

end

/-- **A text that was written as a value whose numbers are integers has the tree of that value.** -/
theorem ofString?_render {v : Value} (hv : v.isIntegral = true) :
    Tree.ofString? (render v) = some (Tree.ofValue v) := by
  have htree := tree?_renderChars v ((renderChars v).length + 1) [] hv (Nat.lt_succ_self _)
    endsNumber_nil
  rw [List.append_nil] at htree
  rw [Tree.ofString?, Tree.ofGlyphs?, render, String.toList_ofList, List.length_map, htree]
  rfl

/-! ## Objects that begin with known members -/

/-- The text of some members that are followed by others. -/
def renderBefore : List (String × Value) → List Char
  | [] => []
  | (k, v) :: ms => quote k ++ ':' :: (renderChars v ++ ',' :: renderBefore ms)

/-- The text of members is that of the first ones and that of the others. -/
lemma renderObject_append (ms : List (String × Value)) (m : String × Value)
    (ms' : List (String × Value)) :
    renderObject (ms ++ m :: ms') = renderBefore ms ++ renderObject (m :: ms') := by
  induction ms with
  | nil => rfl
  | cons m₀ ms ih =>
    have hne : ms ++ m :: ms' ≠ [] := by simp
    rw [List.cons_append, renderObject, renderMembers_eq, if_neg hne, ih]
    simp [renderBefore]

/-- Members whose numbers are integers are read off the text of an object, whatever follows.

**Proof sketch.** Induction on the members: each is a key, a value that `tree?_renderChars` reads
and a comma, and one unit of fuel. What is left of the fuel is that of the members behind. -/
lemma members?_renderBefore (ms : List (String × Value)) (hms : membersIntegral ms = true)
    (fuel : Nat) (s : List Glyph) (hlen : (renderBefore ms).length < fuel) :
    ∃ fuel', members? fuel ((renderBefore ms).map some ++ s) =
      (members? fuel' s).map fun r => (memberTrees ms ++ r.1, r.2) := by
  induction ms generalizing fuel with
  | nil =>
    refine ⟨fuel, ?_⟩
    cases h : members? fuel s <;> simp [renderBefore, memberTrees, h]
  | cons m ms ih =>
    obtain ⟨k, v⟩ := m
    obtain ⟨hv, hrest⟩ : v.isIntegral = true ∧ membersIntegral ms = true := by
      simpa [membersIntegral] using hms
    simp only [renderBefore, List.length_append, List.length_cons] at hlen
    obtain ⟨fuel, rfl⟩ : ∃ n, fuel = n + 1 := ⟨fuel - 1, by omega⟩
    have htree := tree?_renderChars v fuel (some ',' :: ((renderBefore ms).map some ++ s)) hv
      (by omega) (endsNumber_cons (by decide) _)
    obtain ⟨fuel', hmembers⟩ := ih hrest fuel (by omega)
    refine ⟨fuel', ?_⟩
    simp only [renderBefore, List.map_append, List.map_cons, List.append_assoc, List.cons_append]
    rw [members?_comma k htree, hmembers, Option.map_map]
    simp [memberTrees, Function.comp_def]

/-- **The text of an object that begins with some members has no tree, or that of an object which
begins with them.** Nothing needs to be known of the values of the others.

**Proof sketch.** The text is an opening brace, the known members and the rest. By
`members?_renderBefore` the reader comes to the rest with the trees of the known members in front,
so whatever it makes of the rest, it fails or its object begins with those. -/
theorem ofString?_render_object {ms : List (String × Value)} (hms : membersIntegral ms = true)
    (hne : ms ≠ []) (m : String × Value) (ms' : List (String × Value)) {t : Tree}
    (h : Tree.ofString? (render (.object (ms ++ m :: ms'))) = some t) :
    ∃ ts, t = .object (memberTrees ms ++ ts) := by
  obtain ⟨⟨k, v⟩, rest, rfl⟩ := List.exists_cons_of_ne_nil hne
  obtain ⟨text, htext⟩ : ∃ text, text = renderChars (.object ((k, v) :: rest ++ m :: ms')) :=
    ⟨_, rfl⟩
  have hopen : text = '\x7b' :: (renderBefore ((k, v) :: rest) ++ renderObject (m :: ms')) := by
    rw [htext, ← renderObject_append, List.cons_append, renderChars, renderObject]
  obtain ⟨fuel, hmembers⟩ := members?_renderBefore ((k, v) :: rest) hms text.length
    ((renderObject (m :: ms')).map some)
    (by rw [hopen, List.length_cons, List.length_append]; omega)
  have htree : tree? (text.length + 1) (text.map some) =
      (members? fuel ((renderObject (m :: ms')).map some)).map
        fun r => (.object (memberTrees ((k, v) :: rest) ++ r.1), r.2) := by
    obtain ⟨s, hs⟩ : ∃ s, (renderBefore ((k, v) :: rest)).map some ++
        (renderObject (m :: ms')).map some = some '"' :: s := ⟨_, rfl⟩
    have hmap : text.map some = some '\x7b' :: some '"' :: s := by
      rw [hopen, List.map_cons, List.map_append, hs]
    rw [hs] at hmembers
    rw [hmap, tree?, skipSpace_cons (by decide)]
    simp only [skipSpace_cons (c := '"') (by decide)]
    split
    · rename_i heq
      exact absurd (Option.some.inj (List.cons.inj heq).1) (by decide)
    · rw [hmembers, Option.map_map]
      rfl
  rw [Tree.ofString?, Tree.ofGlyphs?, render, String.toList_ofList, List.length_map, ← htext] at h
  rw [htree] at h
  cases hrest : members? fuel ((renderObject (m :: ms')).map some) with
  | none =>
    rw [hrest] at h
    exact absurd h (by simp)
  | some r =>
    rw [hrest] at h
    simp only [Option.map_some] at h
    split at h
    · exact ⟨r.1, (Option.some.inj h).symm⟩
    · exact absurd h (by simp)

end ConversionScheduler.Json
