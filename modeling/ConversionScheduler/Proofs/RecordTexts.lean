import ConversionScheduler.Proofs.Records
/-!
# Reading a record and writing it again

Whatever text a record was read from, the record is read back from the text that is written for it.
What has to be shown is that reading yields nothing which writing cannot express: free-form data
comes with ascending keys, with integers that 64 bits hold, and nested no deeper than it was found.

## Main results

* `Json.Tree.isReadable_of_value?` — free-form data that was read can be read again.
* `Json.depth_of_fields?` — the fields of a record lie one level below it.
* `TaskRecord.decode?_render_of_decode?`, `WorkerRecord.decode?_render_of_decode?` — what was read
  is read back.
* `record_texts_round_trip` — the texts of records and tasks, from either side.
-/

namespace ConversionScheduler

namespace Json

/-! ## Free-form data -/

/-- An integer that was read is one of 64 bits. -/
lemma NumberText.integer_bounds {t : NumberText} {n : Int} (h : t.number? = some (.integer n)) :
    -9223372036854775808 ≤ n ∧ n < 18446744073709551616 := by
  unfold NumberText.number? at h
  simp only at h
  split at h
  · rename_i hwhole
    split at h
    · simp only [Option.some.injEq, Number.integer.injEq] at h
      omega
    split at h
    · simp only [Option.some.injEq, Number.integer.injEq] at h
      omega
    · exact absurd h (by simp)
  · obtain ⟨d, -, hd⟩ := Option.map_eq_some_iff.mp h
    exact absurd hd (by simp)

/-- Inserting a member brings in nothing else. -/
lemma mem_insertMember {k : String} {v : Value} {ms : List (String × Value)}
    {m : String × Value} (h : m ∈ Value.insertMember k v ms) : m = (k, v) ∨ m ∈ ms := by
  induction ms with
  | nil => exact .inl (List.mem_singleton.mp h)
  | cons m' ms ih =>
    obtain ⟨k', v'⟩ := m'
    rw [Value.insertMember] at h
    split at h
    · exact List.mem_cons.mp h
    split at h
    · exact (List.mem_cons.mp h).imp_right (List.mem_cons_of_mem _)
    · rcases List.mem_cons.mp h with rfl | h
      · exact .inr (List.mem_cons_self ..)
      · exact (ih h).imp_right (List.mem_cons_of_mem _)

/-- A member finds its place among ascending keys.

**Proof sketch.** Induction on the members. The new key is below the first one, and so below all, or
it is the first one, or it is above it and finds its place among the others. -/
lemma keysAscend_insertMember {k : String} {v : Value} {ms : List (String × Value)}
    (h : keysAscend ms = true) : keysAscend (Value.insertMember k v ms) = true := by
  induction ms with
  | nil => rfl
  | cons m ms ih =>
    obtain ⟨k', v'⟩ := m
    obtain ⟨hall, hms⟩ := Bool.and_eq_true_iff.mp h
    have hlt : ∀ m ∈ ms, k' < m.1 := fun m hm => by simpa using List.all_eq_true.mp hall m hm
    rw [Value.insertMember]
    split
    · rename_i hk
      refine Bool.and_eq_true_iff.mpr ⟨List.all_eq_true.mpr fun m hm => decide_eq_true ?_, h⟩
      rcases List.mem_cons.mp hm with rfl | hm
      · exact hk
      · exact String.lt_trans hk (hlt m hm)
    split
    · rename_i hk
      exact hk ▸ h
    · rename_i hge hne
      have hk : k' < k := String.not_le.mp fun hle =>
        hne (String.le_antisymm hle (String.not_lt.mp hge))
      refine Bool.and_eq_true_iff.mpr ⟨List.all_eq_true.mpr fun m hm => decide_eq_true ?_, ih hms⟩
      rcases mem_insertMember hm with rfl | hm
      · exact hk
      · exact hlt m hm

/-- An object has ascending keys, and members that it was made of. -/
lemma foldl_insertMember_subset (ms : List (String × Value)) {acc : List (String × Value)}
    (hacc : keysAscend acc = true) :
    keysAscend (ms.foldl (fun acc m => Value.insertMember m.1 m.2 acc) acc) = true ∧
      ∀ m ∈ ms.foldl (fun acc m => Value.insertMember m.1 m.2 acc) acc, m ∈ acc ∨ m ∈ ms := by
  induction ms generalizing acc with
  | nil => exact ⟨hacc, fun m hm => .inl hm⟩
  | cons x ms ih =>
    obtain ⟨hkeys, hsub⟩ := ih (keysAscend_insertMember (k := x.1) (v := x.2) hacc)
    refine ⟨hkeys, fun m hm => ?_⟩
    rcases hsub m hm with hm | hm
    · rcases mem_insertMember hm with rfl | hm
      · exact .inr (List.mem_cons_self ..)
      · exact .inl hm
    · exact .inr (List.mem_cons_of_mem _ hm)

/-- A list has no number but integers in it exactly if none of its items has. -/
lemma allIntegral_iff {vs : List Value} :
    allIntegral vs = true ↔ ∀ v ∈ vs, v.isIntegral = true := by
  induction vs with
  | nil => simp [allIntegral]
  | cons v vs ih => simp [allIntegral, ih]

/-- An object has no number but integers in it exactly if none of its members has. -/
lemma membersIntegral_iff {ms : List (String × Value)} :
    membersIntegral ms = true ↔ ∀ m ∈ ms, m.2.isIntegral = true := by
  induction ms with
  | nil => simp [membersIntegral]
  | cons m ms ih => simp [membersIntegral, ih]

/-- A list can be read back exactly if each of its items can. -/
lemma allReadable_iff {depth : Nat} {vs : List Value} :
    allReadable depth vs = true ↔ ∀ v ∈ vs, v.isReadable depth = true := by
  induction vs with
  | nil => simp [allReadable]
  | cons v vs ih => simp [allReadable, ih]

/-- An object can be read back exactly if each of its members can. -/
lemma membersReadable_iff {depth : Nat} {ms : List (String × Value)} :
    membersReadable depth ms = true ↔ ∀ m ∈ ms, m.2.isReadable depth = true := by
  induction ms with
  | nil => simp [membersReadable]
  | cons m ms ih => simp [membersReadable, ih]

mutual

/-- **Free-form data that was read can be read again**, if its numbers are integers.

**Proof sketch.** Induction on the tree, with its items and its members. A value uses one level of
the depth for every array or object, as reading it did; the keys of an object that was read ascend,
and its members are among those read. -/
theorem Tree.isReadable_of_value? : ∀ (t : Tree) (depth : Nat) (v : Value),
    t.value? depth = some v → v.isIntegral = true → v.isReadable depth = true
  | .null, _, _, h, _ | .bool _, _, _, h, _ => by
    obtain rfl := Option.some.inj (by simpa [Tree.value?] using h)
    simp [Value.isReadable]
  | .number n, _, _, h, hv => by
    obtain ⟨x, hx, rfl⟩ : ∃ x, n.number? = some x ∧ Value.number x = _ := by
      simpa [Tree.value?] using h
    cases x with
    | integer i => simpa [Value.isReadable] using NumberText.integer_bounds hx
    | double d => exact absurd hv (by simp [Value.isIntegral])
  | .string s, _, _, h, _ => by
    obtain ⟨x, -, rfl⟩ : ∃ x, s = some x ∧ Value.string x = _ := by
      simpa [Tree.value?] using h
    simp [Value.isReadable]
  | .array _, 0, _, h, _ | .object _, 0, _, h, _ => absurd h (by simp [Tree.value?])
  | .array ts, depth + 1, _, h, hv => by
    obtain ⟨vs, hvs, rfl⟩ : ∃ vs, values? depth ts = some vs ∧ Value.array vs = _ := by
      simpa [Tree.value?] using h
    have hall := allIntegral_iff.mp (by simpa [Value.isIntegral] using hv)
    simpa [Value.isReadable] using allReadable_iff.mpr fun v hmem =>
      isReadable_of_values? ts depth vs hvs v hmem (hall v hmem)
  | .object ms, depth + 1, _, h, hv => by
    obtain ⟨vs, hvs, rfl⟩ : ∃ vs, memberValues? depth ms = some vs ∧ Value.ofMembers vs = _ := by
      simpa [Tree.value?] using h
    -- of several members with one key the last one counts, so not all that were read are there
    have hempty : keysAscend ([] : List (String × Value)) = true := rfl
    obtain ⟨hkeys, hsub⟩ := foldl_insertMember_subset vs hempty
    have hall := membersIntegral_iff.mp (by simpa [Value.ofMembers, Value.isIntegral] using hv)
    refine Bool.and_eq_true_iff.mpr ⟨hkeys, membersReadable_iff.mpr fun m hmem => ?_⟩
    have hin : m ∈ vs := (hsub m hmem).resolve_left (by simp)
    exact isReadable_of_memberValues? ms depth vs hvs m hin (hall m hmem)

/-- Of the values that are read from trees, those with no number but integers in them can be read
again. -/
theorem isReadable_of_values? : ∀ (ts : List Tree) (depth : Nat) (vs : List Value),
    values? depth ts = some vs → ∀ v ∈ vs, v.isIntegral = true → v.isReadable depth = true
  | [], _, _, h, v, hmem, _ => by
    obtain rfl := Option.some.inj (by simpa [values?] using h)
    exact absurd hmem (by simp)
  | t :: ts, depth, _, h, v, hmem, hv => by
    rw [values?] at h
    obtain ⟨x, hx, h⟩ := Option.bind_eq_some_iff.mp h
    obtain ⟨xs, hxs, h⟩ := Option.bind_eq_some_iff.mp h
    obtain rfl := Option.some.inj h
    rcases List.mem_cons.mp hmem with rfl | hmem
    · exact Tree.isReadable_of_value? t depth v hx hv
    · exact isReadable_of_values? ts depth xs hxs v hmem hv

/-- Of the members that are read from trees, those with no number but integers in them can be read
again. -/
theorem isReadable_of_memberValues? : ∀ (ms : List (Option String × Tree)) (depth : Nat)
    (vs : List (String × Value)), memberValues? depth ms = some vs →
    ∀ m ∈ vs, m.2.isIntegral = true → m.2.isReadable depth = true
  | [], _, _, h, m, hmem, _ => by
    obtain rfl := Option.some.inj (by simpa [memberValues?] using h)
    exact absurd hmem (by simp)
  | (k, t) :: ms, depth, _, h, m, hmem, hm => by
    rw [memberValues?] at h
    obtain ⟨key, -, h⟩ := Option.bind_eq_some_iff.mp h
    obtain ⟨x, hx, h⟩ := Option.bind_eq_some_iff.mp h
    obtain ⟨xs, hxs, h⟩ := Option.bind_eq_some_iff.mp h
    obtain rfl := Option.some.inj h
    rcases List.mem_cons.mp hmem with rfl | hmem
    · exact Tree.isReadable_of_value? t depth x hx hm
    · exact isReadable_of_memberValues? ms depth xs hxs m hmem hm

end

/-! ## The fields of a record -/

/-- What is read from a list comes from one of its items each. -/
lemma mem_of_mapM_eq_some {α β : Type} {f : α → Option β} {as : List α} {bs : List β}
    (h : as.mapM f = some bs) {b : β} (hb : b ∈ bs) : ∃ a ∈ as, f a = some b := by
  induction as generalizing bs with
  | nil =>
    obtain rfl := Option.some.inj h
    exact absurd hb (by simp)
  | cons a as ih =>
    rw [List.mapM_cons] at h
    obtain ⟨x, hx, h⟩ := Option.bind_eq_some_iff.mp h
    obtain ⟨xs, hxs, h⟩ := Option.bind_eq_some_iff.mp h
    obtain rfl := Option.some.inj h
    rcases List.mem_cons.mp hb with rfl | hb
    · exact ⟨a, List.mem_cons_self .., hx⟩
    · obtain ⟨a', ha', hf⟩ := ih hxs hb
      exact ⟨a', List.mem_cons_of_mem _ ha', hf⟩

/-- What a name picks is one of the members. -/
lemma mem_of_pick? {ν : Type} {ms : List (String × ν)} {names : List String} {fs : Fields ν}
    (h : Dialect.pick? ms names = some fs) {f : String × ν} (hf : f ∈ fs) :
    ∃ m ∈ ms, m.2 = f.2 := by
  unfold Dialect.pick? at h
  split at h
  · obtain rfl := Option.some.inj h
    exact absurd hf (by simp)
  · rename_i m hfilter
    obtain rfl := Option.some.inj h
    obtain rfl := List.mem_singleton.mp hf
    have hm : m ∈ ms.filter fun m => names.contains m.1 := hfilter ▸ List.mem_singleton_self m
    exact ⟨m, (List.mem_filter.mp hm).1, rfl⟩
  · exact absurd h (by simp)

/-- The items and the members of a record lie one level below it.

**Proof sketch.** A record is an array or an object with at least one level left, and what lies in
it is read with one level less. -/
lemma depth_of_record? {c : Cursor} :
    (∀ {vs}, c.record? = some (.items vs) → ∀ v ∈ vs, v.depth + 1 = c.depth) ∧
      ∀ {ms}, c.record? = some (.members ms) → ∀ m ∈ ms, m.2.depth + 1 = c.depth := by
  obtain ⟨depth, t⟩ := c
  unfold Cursor.record?
  cases t with
  | array ts =>
    cases depth with
    | zero => exact ⟨fun h => absurd h (by simp [Cursor.items?]),
        fun h => absurd h (by simp [Cursor.items?])⟩
    | succ depth =>
      refine ⟨fun h v hv => ?_, fun h => absurd h (by simp [Cursor.items?])⟩
      obtain rfl := Written.items.inj (Option.some.inj h)
      obtain ⟨t, -, rfl⟩ := List.mem_map.mp hv
      rfl
  | object ms =>
    cases depth with
    | zero => exact ⟨fun h => absurd h (by simp [Cursor.members?]),
        fun h => absurd h (by simp [Cursor.members?])⟩
    | succ depth =>
      refine ⟨fun h => absurd h (by simp), fun h m hm => ?_⟩
      obtain ⟨ms', hms', heq⟩ := Option.map_eq_some_iff.mp h
      obtain rfl := Written.members.inj heq
      obtain ⟨m', -, hm'⟩ := mem_of_mapM_eq_some hms' hm
      obtain ⟨key, -, rfl⟩ := Option.map_eq_some_iff.mp hm'
      rfl
  | null | bool _ | number _ | string _ =>
    exact ⟨fun h => absurd h (by simp [Cursor.members?]),
      fun h => absurd h (by simp [Cursor.members?])⟩

/-- The fields of a record lie one level below it. -/
lemma depth_of_fields? {names : List (List String)} {c : Cursor} {fs : Fields Cursor}
    (h : dialect.fields? names c = some fs) {f : String × Cursor} (hf : f ∈ fs) :
    f.2.depth + 1 = c.depth := by
  unfold Dialect.fields? at h
  split at h
  · exact absurd h (by simp)
  · rename_i ms hms
    obtain ⟨picked, hpicked, rfl⟩ := Option.map_eq_some_iff.mp h
    obtain ⟨fs, hfs, hf⟩ := List.mem_flatten.mp hf
    obtain ⟨name, -, hpick⟩ := mem_of_mapM_eq_some hpicked hfs
    obtain ⟨m, hm, heq⟩ := mem_of_pick? hpick hf
    exact heq ▸ depth_of_record?.2 hms m hm
  · rename_i vs hvs
    split at h
    · obtain rfl := Option.some.inj h
      exact depth_of_record?.1 hvs _ (List.of_mem_zip hf).2
    · exact absurd h (by simp)

/-- A field that may be left out was left out, or read one level below the record. -/
lemma defaulted_eq_some {α : Type} {names : List (List String)} {c : Cursor} {fs : Fields Cursor}
    (h : dialect.fields? names c = some fs) {name : String} {default a : α}
    {read : Cursor → Option α} (hread : fs.defaulted name default read = some a) :
    a = default ∨ ∃ c', c'.depth + 1 = c.depth ∧ read c' = some a := by
  unfold Fields.defaulted at hread
  split at hread
  · exact .inl (Option.some.inj hread).symm
  · rename_i c' hlookup
    obtain ⟨before, after, rfl, -⟩ := List.lookup_eq_some_iff.mp hlookup
    exact .inr ⟨c', depth_of_fields? h (f := (name, c')) (by simp), hread⟩

/-- A number that is read is below its bound. -/
lemma nat?_lt {bound n : Nat} {c : Cursor} (h : c.nat? bound = some n) : n < bound := by
  unfold Cursor.nat? at h
  split at h
  · split at h
    · split at h
      · rename_i hlt
        exact Option.some.inj h ▸ hlt
      · exact absurd h (by simp)
    · exact absurd h (by simp)
  · exact absurd h (by simp)

end Json

open Json (Value Cursor)

/-! ## Records -/

/-- The weight in a record that was read is one of 32 bits. -/
lemma WorkerRecord.weight_lt_of_read? {c : Cursor} {r : WorkerRecord} (h : read? c = some r) :
    r.weight < Dialect.bound32 := by
  unfold read? at h
  obtain ⟨fs, hfs, h⟩ := Option.bind_eq_some_iff.mp h
  obtain ⟨id, -, h⟩ := Option.bind_eq_some_iff.mp h
  obtain ⟨addr, -, h⟩ := Option.bind_eq_some_iff.mp h
  obtain ⟨time, -, h⟩ := Option.bind_eq_some_iff.mp h
  obtain ⟨weight, hweight, h⟩ := Option.bind_eq_some_iff.mp h
  obtain rfl := Option.some.inj h
  rcases Json.defaulted_eq_some hfs hweight with rfl | ⟨c', -, hread⟩
  · exact show (1 : Nat) < Dialect.bound32 by decide
  · exact Json.nat?_lt hread

/-- The free-form data in a record that was read can be read one level below the record. -/
lemma TaskRecord.isReadable_of_read? {depth : Nat} {t : Json.Tree} {r : TaskRecord}
    (h : read? ⟨depth + 1, t⟩ = some r) (hr : r.userDef.isIntegral = true) :
    r.userDef.isReadable depth = true := by
  unfold read? at h
  obtain ⟨fs, hfs, h⟩ := Option.bind_eq_some_iff.mp h
  obtain ⟨id, -, h⟩ := Option.bind_eq_some_iff.mp h
  obtain ⟨state, -, h⟩ := Option.bind_eq_some_iff.mp h
  obtain ⟨taskType, -, h⟩ := Option.bind_eq_some_iff.mp h
  obtain ⟨subType, -, h⟩ := Option.bind_eq_some_iff.mp h
  obtain ⟨priority, -, h⟩ := Option.bind_eq_some_iff.mp h
  obtain ⟨workerId, -, h⟩ := Option.bind_eq_some_iff.mp h
  obtain ⟨workerTaskId, -, h⟩ := Option.bind_eq_some_iff.mp h
  obtain ⟨createdAt, -, h⟩ := Option.bind_eq_some_iff.mp h
  obtain ⟨updatedAt, -, h⟩ := Option.bind_eq_some_iff.mp h
  obtain ⟨userDef, huserDef, h⟩ := Option.bind_eq_some_iff.mp h
  obtain rfl := Option.some.inj h
  rcases Json.defaulted_eq_some hfs huserDef with rfl | ⟨⟨depth', t'⟩, hdepth, hread⟩
  · simp [Value.isReadable]
  · obtain rfl : depth' = depth := Nat.succ.inj hdepth
    exact t'.isReadable_of_value? depth' userDef hread hr

/-- What was read of a worker is read back. -/
theorem WorkerRecord.decode?_render_of_decode? {s : String} {r : WorkerRecord}
    (h : Json.decode? read? s = some r) : Json.decode? read? (Json.render r.toJson) = some r := by
  obtain ⟨t, -, hread⟩ := Option.bind_eq_some_iff.mp h
  exact decode?_render (weight_lt_of_read? hread)

/-- What was read of a task is read back, if the numbers in its free-form data are integers. -/
theorem TaskRecord.decode?_render_of_decode? {s : String} {r : TaskRecord}
    (h : Json.decode? read? s = some r) (hr : r.userDef.isIntegral = true) :
    Json.decode? read? (Json.render r.toJson) = some r := by
  obtain ⟨t, -, hread⟩ := Option.bind_eq_some_iff.mp h
  exact decode?_render_of_isReadable (isReadable_of_read? hread hr)

/-- A task survives the text of its record. -/
lemma Task.ofRecord_decode?_render {t : Task} (now : Timestamp)
    (ht : t.userDef.isReadable 126 = true)
    (hassigned : ∀ a, t.assignment = some a → a.workerId ≠ "" ∧ a.remoteId ≠ "") :
    (Json.decode? TaskRecord.read? (Json.render (t.toRecord now).toJson)).map ofRecord =
      some t := by
  rw [TaskRecord.decode?_render_of_isReadable (r := t.toRecord now) ht, Option.map_some,
    ofRecord_toRecord t now hassigned]

/-- **The texts of records round-trip.** Every record of a worker, whose weight has 32 bits, is read
back from its text; and so is every task, whenever its record is written, if its free-form data is
readable, that is, holds integers of 64 bits only, has the keys of its objects in order and is
nested no deeper than can be read, and if its assignment, if there is one, consists of two non-empty
ids. From the other side, what was read from any text is read back from
the text that is written for it; of a task's record the free-form data has to hold integers only,
whatever else stands in the text.

**Proof sketch.** A text that is written is read as the tree of its record, field by field. What was
read from any text is a record whose fields can be read again, so the first part applies to it. -/
theorem record_texts_round_trip :
    (∀ r : WorkerRecord, r.weight < Dialect.bound32 →
      Json.decode? WorkerRecord.read? (Json.render r.toJson) = some r) ∧
    (∀ (t : Task) (now : Timestamp), t.userDef.isReadable 126 = true →
      (∀ a, t.assignment = some a → a.workerId ≠ "" ∧ a.remoteId ≠ "") →
      (Json.decode? TaskRecord.read? (Json.render (t.toRecord now).toJson)).map Task.ofRecord =
        some t) ∧
    (∀ s r, Json.decode? WorkerRecord.read? s = some r →
      Json.decode? WorkerRecord.read? (Json.render r.toJson) = some r) ∧
    ∀ s r, Json.decode? TaskRecord.read? s = some r → r.userDef.isIntegral = true →
      Json.decode? TaskRecord.read? (Json.render r.toJson) = some r :=
  ⟨fun _ => WorkerRecord.decode?_render, fun _ now => Task.ofRecord_decode?_render now,
    fun _ _ => WorkerRecord.decode?_render_of_decode?,
    fun _ _ => TaskRecord.decode?_render_of_decode?⟩

/-- The end of a leap second, in the last year that is written without a sign. -/
def Timestamp.lateLeap : Timestamp := ⟨253402300799, 1999999999, by decide, by decide, by decide⟩

/-- A worker with control characters in its id and the greatest weight, a task with the least and
the greatest integer, a worker written as a list without its weight, and a task in whose free-form
data a key is repeated. -/
theorem record_texts_round_trip_odd :
    let worker : WorkerRecord := ⟨"\x01\"\\😀", "", .lateLeap, 4294967295⟩
    let task : Task := ⟨"", "pdf", "\n", .done, .high, .epoch,
      .object [("", .array [.number (.integer (-9223372036854775808)),
        .number (.integer 18446744073709551615)]), ("é", .null)], some ⟨"w", "r"⟩⟩
    let workerText := "[\"w\", \"a:1\", \"+12345-1-2 3:04:60.5+01:30\"]"
    let taskText :=
      "\x7b\"user_def\": \x7b\"k\": 1.5, \"a\": \"\\ud83d\\ude00\", \"k\": [2]\x7d, " ++
      "\"type\": \"pdf\", \"sub_type\": \"\", \"task_state\": \x7b\"DONE\": null\x7d, " ++
      "\"created_at\": \"-0001-01-01T00:00:00Z\", \"updated_at\": \"1970-01-01T00:00:00Z\"\x7d"
    Json.decode? WorkerRecord.read? (Json.render worker.toJson) = some worker ∧
      (Json.decode? TaskRecord.read? (Json.render (task.toRecord .lateLeap).toJson)).map
        Task.ofRecord = some task ∧
      (∃ r, Json.decode? WorkerRecord.read? workerText = some r ∧ r.weight = 1 ∧
        Json.decode? WorkerRecord.read? (Json.render r.toJson) = some r) ∧
      ∃ r, Json.decode? TaskRecord.read? taskText = some r ∧
        r.userDef = .object [("a", .string "😀"), ("k", .array [.number (.integer 2)])] ∧
        Json.decode? TaskRecord.read? (Json.render r.toJson) = some r := by
  intro worker task workerText taskText
  obtain ⟨hworker, htask, hworkerText, htaskText⟩ := record_texts_round_trip
  obtain ⟨r, hr, hweight⟩ : ∃ r, Json.decode? WorkerRecord.read? workerText = some r ∧
      r.weight = 1 := by
    have h : (Json.decode? WorkerRecord.read? workerText).map (·.weight) = some 1 := by
      decide +kernel
    exact Option.map_eq_some_iff.mp h
  obtain ⟨r', hr', hdata⟩ : ∃ r, Json.decode? TaskRecord.read? taskText = some r ∧
      r.userDef = .object [("a", .string "😀"), ("k", .array [.number (.integer 2)])] := by
    have h : (Json.decode? TaskRecord.read? taskText).map (·.userDef) =
        some (.object [("a", .string "😀"), ("k", .array [.number (.integer 2)])]) := by
      decide +kernel
    exact Option.map_eq_some_iff.mp h
  refine ⟨hworker worker (by decide), htask task .lateLeap (by decide +kernel) (by simp [task]),
    ⟨r, hr, hweight, hworkerText _ r hr⟩, r', hr', hdata, htaskText _ r' hr' ?_⟩
  rw [hdata]
  decide +kernel

end ConversionScheduler
