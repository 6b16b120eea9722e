import ConversionScheduler.Proofs.IdOrder
import ConversionScheduler.Worker.Proxy
import Mathlib.Tactic.Common
/-!
# Where the status of a task is asked for

A worker is asked about a task under the id that it gave the task itself. The id becomes the last
segment of a path, with what is reserved written as octets, and what was written can be read again.
But before it is written, tabs and line ends are dropped; a dot and a double dot are left out, and
where they remain once tabs and line ends are dropped, they are followed. So the path names the task
only if its id has nothing of the kind in it, and no id is alone in having its URL.

## Main definitions

* `Url.stem` — the segments behind which others are added.
* `Url.NamesTask` — a URL that has the id of a task as its last segment.
* `Url.IsPlain` — an id from which nothing is dropped.
* `Url.residue` — what counts of an id.

## Main results

* `Percent.decode_encode` — what was written in a segment can be read again.
* `Url.segments_append_task` — the path to the status of a task.
* `Url.namesTask_append_iff` — which ids are named by it.
* `status_url_names_task_iff` — the request for the status of a task.
-/

namespace ConversionScheduler

namespace Percent

variable {reserved : Char → Bool}

/-- The value of a hexadecimal digit is read back from its character. -/
lemma hexValue?_hexDigit {d : Nat} (h : d < 16) : hexValue? (hexDigit d) = some d := by
  have hall : ∀ d : Fin 16, hexValue? (hexDigit d) = some d.val := by decide
  exact hall ⟨d, h⟩

/-- An octet is read back from its two hexadecimal digits. -/
lemma octet?_hexDigit (b : UInt8) :
    octet? (hexDigit (b.toNat / 16)) (hexDigit (b.toNat % 16)) = some b := by
  have hb : b.toNat < 256 := b.toNat_lt
  rw [octet?, hexValue?_hexDigit (by omega), hexValue?_hexDigit (by omega)]
  have hdigits : b.toNat / 16 * 16 + b.toNat % 16 = b.toNat := by omega
  simp only [hdigits, UInt8.ofNat_toNat]

/-- Octets that are written with a percent sign each are read back. -/
lemma decode_octets (bs : List UInt8) (rest : List Char) :
    decode (bs.flatMap octet ++ rest) = bs ++ decode rest := by
  induction bs with
  | nil => rfl
  | cons b bs ih =>
    rw [List.flatMap_cons, List.append_assoc]
    show decode ('%' :: hexDigit (b.toNat / 16) :: hexDigit (b.toNat % 16) ::
      (bs.flatMap octet ++ rest)) = _
    rw [decode, octet?_hexDigit]
    exact congrArg (b :: ·) ih

/-- A character without a percent sign stands for its own octets. -/
lemma decode_cons_of_ne {c : Char} (h : c ≠ '%') (rest : List Char) :
    decode (c :: rest) = String.utf8EncodeChar c ++ decode rest := by
  rw [decode]
  exact fun a b rest' heq _ => h heq

/-- A character stands for its own octets however it is written, if a percent sign is never written
as it is. -/
lemma decode_encodeChar (hreserved : reserved '%' = true) (c : Char) (rest : List Char) :
    decode (encodeChar reserved c ++ rest) = String.utf8EncodeChar c ++ decode rest := by
  unfold encodeChar
  split
  · exact decode_octets _ _
  · rename_i hfree
    refine decode_cons_of_ne (fun heq => hfree ?_) rest
    rw [heq, hreserved]
    simp

/-- **What was written can be read again**, if the mark of an octet is reserved itself. -/
theorem decode_encode (hreserved : reserved '%' = true) (cs : List Char) :
    decode (encode reserved cs) = cs.flatMap String.utf8EncodeChar := by
  induction cs with
  | nil => rfl
  | cons c cs ih =>
    rw [encode, List.flatMap_cons, decode_encodeChar hreserved, List.flatMap_cons, ← ih, encode]

/-- A segment stands for the octets of the text that was written. -/
lemma decode_segment (s : String) : decode (encode inSegment s.toList) = Utf8.encode s := by
  rw [decode_encode (by decide), Utf8.encode_eq]

/-- What is written in a segment does not stand for two texts. -/
lemma eq_of_decode_eq {cs ds : List Char}
    (h : decode (encode inSegment cs) = decode (encode inSegment ds)) : cs = ds := by
  have hoctets : Utf8.encode (String.ofList cs) = Utf8.encode (String.ofList ds) := by
    rw [← decode_segment, ← decode_segment, String.toList_ofList, String.toList_ofList, h]
  exact String.ofList_injective (Utf8.encode_injective hoctets)

/-- No hexadecimal digit is a slash. -/
lemma hexDigit_ne_slash {d : Nat} (h : d < 16) : hexDigit d ≠ '/' := by
  have hall : ∀ d : Fin 16, hexDigit d ≠ '/' := by decide
  exact hall ⟨d, h⟩

/-- What is written in a segment stays within it. -/
lemma slash_not_mem_segment (cs : List Char) : '/' ∉ encode inSegment cs := by
  intro hmem
  obtain ⟨c, -, hc⟩ := List.mem_flatMap.mp hmem
  unfold encodeChar at hc
  split at hc
  · obtain ⟨b, -, hb⟩ := List.mem_flatMap.mp hc
    have hlt : b.toNat < 256 := b.toNat_lt
    have hhigh := hexDigit_ne_slash (d := b.toNat / 16) (by omega)
    have hlow := hexDigit_ne_slash (d := b.toNat % 16) (by omega)
    simp [octet, hhigh.symm, hlow.symm] at hb
  · rename_i hfree
    obtain rfl := List.mem_singleton.mp hc
    exact hfree (by decide)

end Percent

namespace Url

/-! ## Dots -/

/-- Every spelling of a dot stands for the octet of a dot. -/
lemma decode_of_isDot {cs : List Char} (h : isDot cs = true) : Percent.decode cs = [46] := by
  have hall : ∀ cs ∈ [['.'], ['%', '2', 'e'], ['%', '2', 'E']], Percent.decode cs = [46] := by
    decide
  exact hall cs (List.contains_iff_mem.mp h)

/-- All ways to write two dots stand for two dots. -/
lemma decode_of_isDoubleDot {cs : List Char} (h : isDoubleDot cs = true) :
    Percent.decode cs = [46, 46] := by
  unfold isDoubleDot at h
  split at h
  · rename_i rest
    rw [Percent.decode_cons_of_ne (by decide), decode_of_isDot h]
    decide
  · rename_i c rest
    rw [Bool.and_eq_true] at h
    obtain ⟨hc, hrest⟩ := h
    have hoctet : Percent.octet? '2' c = some 46 := by
      rcases Bool.or_eq_true _ _ |>.mp hc with hc | hc <;>
        (rw [of_decide_eq_true hc]; decide)
    rw [Percent.decode, hoctet]
    simp only [decode_of_isDot hrest]
  · exact absurd h (by simp)

/-- A segment that was written stands for a dot only if the text was one. -/
lemma isDot_encode_iff {cs : List Char} :
    isDot (Percent.encode Percent.inSegment cs) = true ↔ cs = ['.'] := by
  constructor
  · intro h
    exact Percent.eq_of_decode_eq ((decode_of_isDot h).trans (by decide))
  · rintro rfl
    decide

/-- A segment that was written stands for a double dot only if the text was one. -/
lemma isDoubleDot_encode_iff {cs : List Char} :
    isDoubleDot (Percent.encode Percent.inSegment cs) = true ↔ cs = ['.', '.'] := by
  constructor
  · intro h
    exact Percent.eq_of_decode_eq ((decode_of_isDoubleDot h).trans (by decide))
  · rintro rfl
    decide

/-! ## The path to a task -/

/-- The segments behind which others are added: an empty one at the end does not count. -/
def stem (u : Url) : List (List Char) :=
  let segments := openEnd u.segments
  if segments = [[]] then [] else segments

/-- The segment in front of the id of a task. -/
def taskSegment : List Char := "task".toList

/-- A URL whose path is that of the base, the segment for tasks, and one segment that stands for the
id of the task. -/
def NamesTask (base u : Url) (id : String) : Prop :=
  ∃ segment, u.segments = base.stem ++ [taskSegment, segment] ∧ '/' ∉ segment ∧
    Percent.decode segment = Utf8.encode id

/-- An id from which nothing is dropped. -/
def IsPlain (id : String) : Prop :=
  id ≠ "." ∧ id ≠ ".." ∧ ∀ c ∈ id.toList, isSkipped c = false

/-- Whether an id is plain can be found out by looking at its characters. -/
instance (id : String) : Decidable (IsPlain id) :=
  decidable_of_iff (id ≠ "." ∧ id ≠ ".." ∧ id.toList.any isSkipped = false) (by simp [IsPlain])

/-- An id without tabs and line ends. -/
def kept (id : String) : List Char := id.toList.filter fun c => !isSkipped c

/-- What counts of an id: nothing at all if it is a dot or a double dot, or else what is left of it
without tabs and line ends, of which a dot does not count either. -/
def residue (id : String) : Option (List Char) :=
  if id = "." ∨ id = ".." then none
  else some (if kept id = ['.'] then [] else kept id)

/-- The segments that are added for the residue of an id. A double dot takes back the segment in
front of it. -/
def taskPath : Option (List Char) → List (List Char)
  | none => [taskSegment]
  | some cs => if cs = ['.', '.'] then [[]] else [taskSegment, Percent.encode Percent.inSegment cs]

/-- A single segment is added, unless it is made of dots. -/
lemma walk_singleton (front : List (List Char)) (segment : List Char) :
    walk front [segment] =
      if isDoubleDot segment then goUp front ++ [[]]
      else if isDot segment then front ++ [[]]
      else front ++ [segment] := by
  simp only [walk, List.isEmpty_nil, Bool.true_and, Bool.or_eq_true]
  split_ifs <;> simp_all

/-- One segment behind the stem. -/
lemma push_openEnd (u : Url) : push (openEnd u.segments) taskSegment = u.stem ++ [taskSegment] := by
  show walk u.stem [taskSegment] = _
  simp [walk, taskSegment, isDot, isDoubleDot]

/-- What is added behind the segment for tasks.

**Proof sketch.** What is left of the id without tabs and line ends is encoded as one segment, and
then walked: two dots take the segment for tasks away, one dot leaves an empty segment, and anything
else is a segment. -/
lemma push_id (front : List (List Char)) (id : String) :
    push (front ++ [taskSegment]) id.toList =
      front ++ taskPath (some (if kept id = ['.'] then [] else kept id)) := by
  have hfront : front ++ [taskSegment] ≠ [[]] := fun h => by
    have hlast := congrArg List.getLast? h
    simp [taskSegment] at hlast
  rw [push, if_neg hfront]
  show walk (front ++ [taskSegment]) [Percent.encode Percent.inSegment (kept id)] = _
  rw [walk_singleton]
  by_cases hdouble : kept id = ['.', '.']
  · have hup : goUp (front ++ [taskSegment]) = front := by simp [goUp, taskSegment, isDrive]
    rw [if_pos (isDoubleDot_encode_iff.mpr hdouble), hup, hdouble]
    rfl
  · rw [if_neg (mt isDoubleDot_encode_iff.mp hdouble)]
    by_cases hdot : kept id = ['.']
    · rw [if_pos (isDot_encode_iff.mpr hdot), if_pos hdot, List.append_assoc]
      rfl
    · rw [if_neg (mt isDot_encode_iff.mp hdot), if_neg hdot, taskPath, if_neg hdouble,
        List.append_assoc]
      rfl

/-- **The path to the status of a task.**

**Proof sketch.** The two segments are added one after the other to what remains of the base URL. An
id that is a dot or a double dot is left out; any other is pushed as it is encoded. -/
theorem segments_append_task (u : Url) (id : String) :
    (u.append ["task", id]).segments = u.stem ++ taskPath (residue id) := by
  have hdots : id.toList = ['.'] ∨ id.toList = ['.', '.'] ↔ id = "." ∨ id = ".." := by
    rw [← String.toList_inj, ← String.toList_inj]
    rfl
  unfold append residue
  by_cases h : id = "." ∨ id = ".."
  · rw [if_pos h]
    have hadded : (["task", id].map String.toList).filter
        (fun cs => cs ≠ ['.'] && cs ≠ ['.', '.']) = [taskSegment] := by
      rcases h with rfl | rfl <;> decide
    simp only [hadded, List.foldl_cons, List.foldl_nil, push_openEnd, taskPath]
  · rw [if_neg h]
    have hadded : (["task", id].map String.toList).filter
        (fun cs => cs ≠ ['.'] && cs ≠ ['.', '.']) = [taskSegment, id.toList] := by
      obtain ⟨hdot, hdouble⟩ := not_or.mp (mt hdots.mp h)
      refine List.filter_eq_self.mpr fun cs hcs => ?_
      rcases List.mem_cons.mp hcs with rfl | hcs
      · decide
      · rw [List.mem_singleton.mp hcs]
        simp [hdot, hdouble]
    simp only [hadded, List.foldl_cons, List.foldl_nil, push_openEnd, push_id]

/-! ## Which tasks have a URL -/

/-- An id comes through as it is exactly if it is plain. -/
lemma residue_eq_some_iff {id : String} : residue id = some id.toList ↔ IsPlain id := by
  unfold residue IsPlain
  by_cases h : id = "." ∨ id = ".."
  · rw [if_pos h]
    exact ⟨fun h' => absurd h' (by simp), fun h' => absurd h (not_or.mpr ⟨h'.1, h'.2.1⟩)⟩
  · obtain ⟨hdot, hdouble⟩ := not_or.mp h
    have hkept : kept id = id.toList ↔ ∀ c ∈ id.toList, isSkipped c = false := by
      rw [kept, List.filter_eq_self]
      simp
    rw [if_neg h, Option.some.injEq, ← hkept]
    refine ⟨fun heq => ⟨hdot, hdouble, ?_⟩, fun ⟨_, _, heq⟩ => ?_⟩
    · by_cases hone : kept id = ['.']
      · rw [if_pos hone] at heq
        rw [kept, ← heq] at hone
        exact absurd hone (by simp)
      · rwa [if_neg hone] at heq
    · rw [heq, if_neg]
      exact fun hone => hdot (String.toList_inj.mp hone)

/-- **A URL names the task just if nothing is dropped from its id.**

**Proof sketch.** Decoding the last segment gives back what was encoded there, which is the id just
if its residue is the id itself. The residues that are no segment, none and a double dot, leave a
path of another form. -/
theorem namesTask_append_iff {u : Url} {id : String} :
    u.NamesTask (u.append ["task", id]) id ↔ IsPlain id := by
  rw [← residue_eq_some_iff, NamesTask, segments_append_task]
  constructor
  · rintro ⟨segment, hsegments, -, hsegment⟩
    have hpath := List.append_cancel_left hsegments
    cases hresidue : residue id with
    | none => simp [hresidue, taskPath] at hpath
    | some cs =>
      by_cases hdouble : cs = ['.', '.']
      · simp [hresidue, taskPath, hdouble] at hpath
      · have hwritten : Percent.encode Percent.inSegment cs = segment := by
          simpa [hresidue, taskPath, hdouble] using hpath
        rw [← Percent.decode_segment, ← hwritten] at hsegment
        rw [Percent.eq_of_decode_eq hsegment]
  · intro h
    have hdouble : id.toList ≠ ['.', '.'] := fun hdouble =>
      (residue_eq_some_iff.mp h).2.1 (String.toList_inj.mp hdouble)
    rw [h, taskPath, if_neg hdouble]
    exact ⟨_, rfl, Percent.slash_not_mem_segment _, Percent.decode_segment id⟩

/-- What comes through of an id can be told from the path. -/
lemma taskPath_injective {a b : Option (List Char)} (h : taskPath a = taskPath b) : a = b := by
  have htask : taskSegment ≠ [] := by decide
  cases a with
  | none =>
    cases b with
    | none => rfl
    | some ds => by_cases hds : ds = ['.', '.'] <;> simp [taskPath, hds, htask] at h
  | some cs =>
    cases b with
    | none => by_cases hcs : cs = ['.', '.'] <;> simp [taskPath, hcs, htask.symm] at h
    | some ds =>
      by_cases hcs : cs = ['.', '.'] <;> by_cases hds : ds = ['.', '.'] <;>
        simp [taskPath, hcs, hds] at h
      · rw [hcs, hds]
      · rw [Percent.eq_of_decode_eq (congrArg Percent.decode h)]

/-- Two ids share a URL just if the same of them counts. -/
theorem append_task_eq_iff {u : Url} {id id' : String} :
    u.append ["task", id'] = u.append ["task", id] ↔ residue id' = residue id := by
  constructor
  · intro h
    have hsegments := congrArg segments h
    rw [segments_append_task, segments_append_task] at hsegments
    exact taskPath_injective (List.append_cancel_left hsegments)
  · intro h
    have hsegments : (u.append ["task", id']).segments = (u.append ["task", id]).segments := by
      rw [segments_append_task, segments_append_task, h]
    exact congrArg (fun segments => { u with segments := segments }) hsegments

/-- For every id there is another one of which the same counts. -/
lemma exists_residue_eq (id : String) : ∃ id', id' ≠ id ∧ id' ≠ "" ∧ residue id' = residue id := by
  by_cases h : id = "." ∨ id = ".."
  · rcases h with rfl | rfl
    · exact ⟨"..", by decide, by decide, by decide⟩
    · exact ⟨".", by decide, by decide, by decide⟩
  · -- a tab at the end is dropped, and no id that ends in one is a dot or a double dot
    have hlist : (id.push '\t').toList = id.toList ++ ['\t'] := String.toList_push ..
    have hkept : kept (id.push '\t') = kept id := by
      rw [kept, hlist, List.filter_append, kept]
      simp [isSkipped]
    have hend : ∀ t : String, t.toList.getLast? ≠ some '\t' → id.push '\t' ≠ t := by
      rintro t ht rfl
      exact ht (by rw [hlist, List.getLast?_concat])
    refine ⟨id.push '\t', fun heq => ?_, hend "" (by decide), ?_⟩
    · have := congrArg List.length (hlist.symm.trans (congrArg String.toList heq))
      simp at this
    · rw [residue, residue, if_neg h, hkept,
        if_neg (not_or.mpr ⟨hend "." (by decide), hend ".." (by decide)⟩)]

end Url

/-! ## The request for the status of a task -/

/-- **The URL that is asked for the status of a task names the task just if its id is plain**, that
is, has no tab and no line end in it and is neither a dot nor a double dot. It is the worker's base
URL but for the path. Plain ids have URLs of their own among plain ids. But what is dropped from an
id does not count, so no id at all is the only one with its URL.

**Proof sketch.** The URL is the base URL with the segments of the task, so all that it says about
the id is its residue. This names the task just if the id is plain, two plain ids with one residue
are the same, and a tab more gives another id with it. -/
theorem status_url_names_task_iff (p : Proxy) {base : Url}
    (h : Url.ofAddress? p.addr = .ok base) (id : String) :
    ∃ url : Url, p.endpoint ["task", id] = .ok url ∧
      (p.taskStatus id).request =
        (if url.isSendable then .ok ⟨.get, url, none⟩ else .error (.unsendable url.text)) ∧
      url = { base with segments := url.segments } ∧
      (base.NamesTask url id ↔ Url.IsPlain id) ∧
      (Url.IsPlain id → ∀ id', Url.IsPlain id' → p.endpoint ["task", id'] = .ok url → id' = id) ∧
      (∀ id', p.endpoint ["task", id'] = .ok url ↔ Url.residue id' = Url.residue id) ∧
      ∃ id', id' ≠ id ∧ id' ≠ "" ∧ p.endpoint ["task", id'] = .ok url := by
  have hendpoint : ∀ id', p.endpoint ["task", id'] = .ok (base.append ["task", id']) := by
    intro id'
    rw [Proxy.endpoint, h]
  have hshared : ∀ id', p.endpoint ["task", id'] = .ok (base.append ["task", id]) ↔
      Url.residue id' = Url.residue id := by
    intro id'
    rw [hendpoint, Except.ok.injEq, Url.append_task_eq_iff]
  refine ⟨base.append ["task", id], hendpoint id, ?_, rfl, Url.namesTask_append_iff, ?_, hshared,
    ?_⟩
  · rw [Proxy.taskStatus, Proxy.request, hendpoint]
  · intro hplain id' hplain' hsame
    have hresidue := (hshared id').mp hsame
    rw [Url.residue_eq_some_iff.mpr hplain, Url.residue_eq_some_iff.mpr hplain'] at hresidue
    exact String.toList_inj.mp (Option.some.inj hresidue)
  · obtain ⟨id', hne, hnonempty, hresidue⟩ := Url.exists_residue_eq id
    exact ⟨id', hne, hnonempty, (hshared id').mpr hresidue⟩

/-- A task whose id has a slash, a space, a mark of a query and one of an octet in it. -/
theorem status_url_names_task_segment :
    let p : Proxy := { id := "w", addr := "w:1/p/" }
    ∃ base url, Url.ofAddress? p.addr = .ok base ∧ Url.IsPlain "a/b c?%2e" ∧
      p.endpoint ["task", "a/b c?%2e"] = .ok url ∧
      url.text = "http://w:1/p/task/a%2Fb%20c%3F%252e" ∧ base.NamesTask url "a/b c?%2e" := by
  intro p
  have hbase : Url.ofAddress? p.addr =
      .ok ⟨.http, [], .domain ['w'], some 1, [['p'], []], none, none⟩ := by decide +kernel
  have hplain : Url.IsPlain "a/b c?%2e" := by decide +kernel
  have htext : (p.endpoint ["task", "a/b c?%2e"]).map Url.text =
      .ok "http://w:1/p/task/a%2Fb%20c%3F%252e" := by decide +kernel
  obtain ⟨url, hurl, -, -, hnames, -⟩ := status_url_names_task_iff p hbase "a/b c?%2e"
  rw [hurl] at htext
  exact ⟨_, url, hbase, hplain, hurl, Except.ok.inj htext, hnames.mpr hplain⟩

/-- A tab is dropped from an id, so that the worker is asked about another task. The whole id is
left out if it is a dot. -/
theorem tasks_share_status_url :
    let p : Proxy := { id := "w", addr := "w:1" }
    ∃ base url, Url.ofAddress? p.addr = .ok base ∧ url.text = "http://w:1/task/ab" ∧
      (p.taskStatus "a\tb").request = .ok ⟨.get, url, none⟩ ∧
      (p.taskStatus "ab").request = .ok ⟨.get, url, none⟩ ∧
      ¬ base.NamesTask url "a\tb" ∧
      (p.endpoint ["task", "."]).map Url.text = .ok "http://w:1/task" := by
  intro p
  have hbase : Url.ofAddress? p.addr =
      .ok ⟨.http, [], .domain ['w'], some 1, [[]], none, none⟩ := by decide +kernel
  refine ⟨_, ⟨.http, [], .domain ['w'], some 1, [Url.taskSegment, ['a', 'b']], none, none⟩, hbase,
    by decide +kernel, by decide +kernel, by decide +kernel, ?_, by decide +kernel⟩
  rintro ⟨segment, hsegments, -, hsegment⟩
  have hlast : ['a', 'b'] = segment := by simpa [Url.stem, Url.openEnd] using hsegments
  rw [← hlast] at hsegment
  exact absurd hsegment (by decide +kernel)

end ConversionScheduler
