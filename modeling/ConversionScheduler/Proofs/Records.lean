import ConversionScheduler.Proofs.JsonData
import ConversionScheduler.Proofs.Rfc3339
import ConversionScheduler.Redis.Tasks
import ConversionScheduler.Redis.Workers
/-!
# Records survive the store

What the Redis stores write about a worker or a task they read back: the object of a record has each
of its fields once, and each field is read back from the form in which it is written.

## Main results

* `Json.fields?_ofValue` — the fields of an object that was written with just these names.
* `WorkerRecord.read?_toJson`, `TaskRecord.read?_toJson` — the two records.
* `TaskRecord.decode?_render` — everything but the free-form data is read back, whatever that is.
* `RedisWorkers.record?_payload`, `RedisTasks.record?_render`, `RedisTasks.record?_render_eq` — the
  texts in the stores.
-/

namespace ConversionScheduler

open Json (Value Tree Cursor)

/-- Decoding the text of a value is reading its tree. -/
lemma Json.decode?_render {α : Type} (read : Cursor → Option α) {v : Value}
    (hv : v.isIntegral = true) :
    Json.decode? read (Json.render v) = read ⟨Json.maxDepth, Tree.ofValue v⟩ := by
  rw [Json.decode?, Json.ofString?_render hv, Option.bind_some]

namespace Json

/-- A number below the bound of a field and below `2 ^ 64` is read back. -/
lemma nat?_ofValue {bound n : Nat} (depth : Nat) (h : n < bound) (h64 : n < 18446744073709551616) :
    Cursor.nat? bound ⟨depth, Tree.ofValue (.nat n)⟩ = some n := by
  have hn : ((n : Int)) = Int.ofNat n := rfl
  simp only [Value.nat, Tree.ofValue, Cursor.nat?, hn]
  rw [number?_ofInt (by omega) (by omega)]
  simp [h]

/-- A text is read back. -/
lemma text?_ofValue (s : String) (depth : Nat) :
    Cursor.text? ⟨depth, Tree.ofValue (.string s)⟩ = some s := by
  simp [Tree.ofValue, Cursor.text?]

end Json

namespace Json

/-- The trees of members are made one by one. -/
lemma memberTrees_eq (ms : List (String × Value)) :
    memberTrees ms = ms.map fun m => (some m.1, Tree.ofValue m.2) := by
  induction ms with
  | nil => simp [memberTrees]
  | cons m ms ih => simp [memberTrees, ih]

/-- If reading gives something for each item of a list, it does for the list. -/
lemma mapM_eq_some {α β : Type} {f : α → Option β} {g : α → β} {l : List α}
    (h : ∀ a ∈ l, f a = some (g a)) : l.mapM f = some (l.map g) := by
  induction l with
  | nil => rfl
  | cons a l ih =>
    rw [List.mapM_cons, h a (by simp), ih fun b hb => h b (by simp [hb])]
    rfl

/-- A name picks the one member with that key. -/
lemma pick?_key {ν : Type} {ms : List (String × ν)} (h : (ms.map (·.1)).Nodup) {m : String × ν}
    (hm : m ∈ ms) : Dialect.pick? ms [m.1] = some [m] := by
  have hfilter : (ms.filter fun x => [m.1].contains x.1) = [m] := by
    induction ms with
    | nil => exact absurd hm (by simp)
    | cons x ms ih =>
      obtain ⟨hx, hms⟩ := List.nodup_cons.mp h
      rcases List.mem_cons.mp hm with rfl | hmem
      · have hrest : (ms.filter fun x => [m.1].contains x.1) = [] := by
          rw [List.filter_eq_nil_iff]
          intro y hy hyx
          have hkey : y.1 = m.1 := by simpa using hyx
          exact hx (List.mem_map.mpr ⟨y, hy, hkey⟩)
        rw [List.filter_cons, hrest]
        simp
      · have hne : x.1 ≠ m.1 := fun heq => hx (List.mem_map.mpr ⟨m, hmem, heq.symm⟩)
        rw [List.filter_cons, ih hms hmem]
        simp [hne]
  rw [Dialect.pick?, hfilter]
  rfl

/-- The fields of an object that was written with just these names.

**Proof sketch.** The members of the object are read as they were written, and since no key is
repeated, each name picks the one member with that key. -/
lemma fields?_ofValue (ms : List (String × Value)) (h : (ms.map (·.1)).Nodup) (depth : Nat) :
    dialect.fields? (ms.map fun m => [m.1]) ⟨depth + 1, Tree.ofValue (.object ms)⟩ =
      some (ms.map fun m => (m.1, ⟨depth, Tree.ofValue m.2⟩)) := by
  have hrecord : dialect.record? ⟨depth + 1, Tree.ofValue (.object ms)⟩ =
      some (.members (ms.map fun m => (m.1, ⟨depth, Tree.ofValue m.2⟩))) := by
    have hmembers : (memberTrees ms).mapM (fun m => m.1.map (·, (⟨depth, m.2⟩ : Cursor))) =
        some (ms.map fun m => (m.1, ⟨depth, Tree.ofValue m.2⟩)) := by
      rw [memberTrees_eq, List.mapM_map]
      exact mapM_eq_some fun m _ => rfl
    simp only [dialect, Cursor.record?, Tree.ofValue, Cursor.members?, hmembers, Option.map_some]
  have hpick : (ms.map fun m => [m.1]).mapM
      (Dialect.pick? (ms.map fun m => (m.1, (⟨depth, Tree.ofValue m.2⟩ : Cursor)))) =
      some (ms.map fun m => [(m.1, (⟨depth, Tree.ofValue m.2⟩ : Cursor))]) := by
    rw [List.mapM_map]
    have hnodup :
        ((ms.map fun m => (m.1, (⟨depth, Tree.ofValue m.2⟩ : Cursor))).map (·.1)).Nodup := by
      rw [List.map_map]
      exact h
    exact mapM_eq_some fun m hm => pick?_key hnodup (List.mem_map_of_mem hm)
  rw [Dialect.fields?, hrecord]
  simp only [hpick, Option.map_some, Option.some.injEq]
  rw [← List.flatMap_def, ← List.map_eq_flatMap]

/-- A name picks the one member with that key among the known ones, unless there is another. -/
lemma pick?_append {ν : Type} {ms ms' : List (String × ν)} (h : (ms.map (·.1)).Nodup)
    {m : String × ν} (hm : m ∈ ms) {fs : Fields ν}
    (hpick : Dialect.pick? (ms ++ ms') [m.1] = some fs) : fs = [m] := by
  have hknown := pick?_key h hm
  unfold Dialect.pick? at hknown hpick
  rw [List.filter_append] at hpick
  generalize ms'.filter (fun x => [m.1].contains x.1) = others at hpick
  split at hknown
  · exact absurd (Option.some.inj hknown) (by simp)
  · rename_i m' hfilter
    rw [hfilter] at hpick
    cases others with
    | nil => exact (Option.some.inj hpick).symm.trans (Option.some.inj hknown)
    | cons x xs => exact absurd hpick (by simp)
  · exact absurd hknown (by simp)

/-- The fields that names pick are under these names.

**Proof sketch.** Induction on the names. The name looked for picks the one field that is assumed; a
name before it picks a field of its own, or none. -/
lemma lookup_picks {ν : Type} {ms : List (String × ν)} {k : String} {x : ν}
    (hk : ∀ fs, Dialect.pick? ms [k] = some fs → fs = [(k, x)]) {names : List String}
    (hname : k ∈ names) {picked : List (Fields ν)}
    (hpicked : (names.map fun name => [name]).mapM (Dialect.pick? ms) = some picked) :
    picked.flatten.lookup k = some x := by
  induction names generalizing picked with
  | nil => exact absurd hname (by simp)
  | cons name names ih =>
    rw [List.map_cons, List.mapM_cons] at hpicked
    obtain ⟨fs, hfs, hpicked⟩ := Option.bind_eq_some_iff.mp hpicked
    obtain ⟨rest, hrest, hpicked⟩ := Option.bind_eq_some_iff.mp hpicked
    obtain rfl := Option.some.inj hpicked
    rw [List.flatten_cons, List.lookup_append]
    -- if the first name is another one, it picks a field with that key, or none
    by_cases heq : k = name
    · rw [hk fs (heq ▸ hfs), List.lookup_cons, beq_self_eq_true]
      rfl
    · have hfs' : fs.lookup k = none := by
        unfold Dialect.pick? at hfs
        split at hfs
        · obtain rfl := Option.some.inj hfs
          rfl
        · obtain rfl := Option.some.inj hfs
          rw [List.lookup_cons, List.headD_cons, beq_eq_false_iff_ne.mpr heq]
          rfl
        · exact absurd hfs (by simp)
      rw [hfs', Option.none_or]
      exact ih ((List.mem_cons.mp hname).resolve_left heq) hrest

/-- The fields of an object that begins with some members, if it has fields at all: those of the
known members are there.

**Proof sketch.** The members are the known ones and others behind them, if those can be read. A
name that a known member has picks that member, as a second one with it would have been refused. -/
lemma lookup_fields?_append {ms : List (String × Value)} (h : (ms.map (·.1)).Nodup)
    {m : String × Value} (hm : m ∈ ms) {names : List String} (hname : m.1 ∈ names)
    {ts : List (Option String × Tree)} {depth : Nat} {fs : Fields Cursor}
    (hfields : dialect.fields? (names.map fun name => [name])
      ⟨depth + 1, .object (memberTrees ms ++ ts)⟩ = some fs) :
    fs.lookup m.1 = some ⟨depth, Tree.ofValue m.2⟩ := by
  unfold Dialect.fields? at hfields
  have hrecord : dialect.record? ⟨depth + 1, .object (memberTrees ms ++ ts)⟩ =
      ((ts.mapM fun t : Option String × Tree =>
        t.1.map (·, (⟨depth, t.2⟩ : Cursor))).map fun rest =>
          .members ((ms.map fun m => (m.1, (⟨depth, Tree.ofValue m.2⟩ : Cursor))) ++ rest)) := by
    have hmembers : (memberTrees ms).mapM (fun m => m.1.map (·, (⟨depth, m.2⟩ : Cursor))) =
        some (ms.map fun m => (m.1, ⟨depth, Tree.ofValue m.2⟩)) := by
      rw [memberTrees_eq, List.mapM_map]
      exact mapM_eq_some fun m _ => rfl
    simp only [dialect, Cursor.record?, Cursor.members?, List.mapM_append, hmembers]
    cases ts.mapM fun t : Option String × Tree => t.1.map (·, (⟨depth, t.2⟩ : Cursor)) <;> rfl
  rw [hrecord] at hfields
  cases hrest : ts.mapM fun t : Option String × Tree => t.1.map (·, (⟨depth, t.2⟩ : Cursor)) with
  | none =>
    rw [hrest] at hfields
    exact absurd hfields (by simp)
  | some rest =>
    rw [hrest] at hfields
    obtain ⟨picked, hpicked, rfl⟩ := Option.map_eq_some_iff.mp hfields
    have hnodup :
        ((ms.map fun m => (m.1, (⟨depth, Tree.ofValue m.2⟩ : Cursor))).map (·.1)).Nodup := by
      rw [List.map_map]
      exact h
    exact lookup_picks (fun fs => pick?_append hnodup (List.mem_map_of_mem hm)) hname hpicked

end Json

/-- **A worker's record is read back from its JSON object.** -/
theorem WorkerRecord.read?_toJson {r : WorkerRecord} (h : r.weight < Dialect.bound32) :
    WorkerRecord.read? ⟨Json.maxDepth, Tree.ofValue r.toJson⟩ = some r := by
  have hweight := Json.nat?_ofValue 126 h (Nat.lt_trans h (by decide))
  have hfields := Json.fields?_ofValue [("id", .string r.id), ("addr", .string r.addr),
    ("last_ping_time", .string r.lastHeartbeat.text), ("weight", .nat r.weight)] (by simp) 126
  simp only [List.map_cons, List.map_nil] at hfields
  rw [WorkerRecord.read?, WorkerRecord.toJson, Json.maxDepth, hfields]
  simp [Fields.required, Fields.defaulted, List.lookup_cons, Json.text?_ofValue, hweight]

/-- A worker's record is read back from its text. -/
lemma WorkerRecord.decode?_render {r : WorkerRecord} (h : r.weight < Dialect.bound32) :
    Json.decode? read? (Json.render r.toJson) = some r := by
  have hv : r.toJson.isIntegral = true := by
    simp [toJson, Value.isIntegral, Json.membersIntegral, Value.nat]
  rw [Json.decode?_render _ hv, read?_toJson h]

/-- A word of a list is read back. -/
lemma Json.choice?_ofValue {words : List String} {w : String} (h : words.contains w = true)
    (depth : Nat) : Json.dialect.choice? words ⟨depth, Tree.ofValue (.string w)⟩ = some w := by
  simp only [Json.dialect, Cursor.choice?, Tree.ofValue, if_pos h]

/-- The state of a task is read back from its word. -/
lemma TaskState.read?_ofValue (s : TaskState) (depth : Nat) :
    TaskState.read? Json.dialect ⟨depth, Tree.ofValue (.string s.word)⟩ = some s := by
  have hword : (TaskState.all.map TaskState.word).contains s.word = true := by cases s <;> decide
  rw [TaskState.read?, Json.choice?_ofValue hword, Option.bind_some, TaskState.ofWord?_word]

/-- A priority is read back from its word. -/
lemma Priority.read?_ofValue (p : Priority) (depth : Nat) :
    Priority.read? Json.dialect ⟨depth, Tree.ofValue (.string p.word)⟩ = some p := by
  have hword : (Priority.all.map Priority.word).contains p.word = true := by cases p <;> decide
  rw [Priority.read?, Json.choice?_ofValue hword, Option.bind_some, Priority.ofWord?_word]

/-- A text that may be absent is read back, and so is its absence. -/
lemma Json.nullable?_ofValue (s : Option String) (depth : Nat) :
    Cursor.nullable? Cursor.text? ⟨depth, Tree.ofValue (.optional s)⟩ = some s := by
  cases s <;> simp [Value.optional, Tree.ofValue, Cursor.nullable?, Cursor.text?]

/-- **A task's record is read back from its JSON object**, provided that its free-form data can be
read one level down. -/
theorem TaskRecord.read?_toJson {r : TaskRecord} (h : r.userDef.isReadable 126 = true) :
    TaskRecord.read? ⟨Json.maxDepth, Tree.ofValue r.toJson⟩ = some r := by
  have hfields := Json.fields?_ofValue [("id", .string r.id),
    ("task_state", .string r.state.word), ("type", .string r.taskType),
    ("sub_type", .string r.subType), ("priority", .string r.priority.word),
    ("worker_id", .optional r.workerId), ("worker_task_id", .optional r.workerTaskId),
    ("created_at", .string r.createdAt.text), ("updated_at", .string r.updatedAt.text),
    ("user_def", r.userDef)] (by simp) 126
  simp only [List.map_cons, List.map_nil] at hfields
  have hdata : Cursor.value? ⟨126, Tree.ofValue r.userDef⟩ = some r.userDef :=
    Json.value?_ofValue r.userDef 126 h
  rw [TaskRecord.read?, TaskRecord.toJson, Json.maxDepth, hfields]
  simp [Fields.required, Fields.defaulted, List.lookup_cons, TaskRecord.time?, Json.text?_ofValue,
    Json.nullable?_ofValue, TaskState.read?_ofValue, Priority.read?_ofValue, hdata]

/-- A task's record is read back from its text, provided that its free-form data can be read. -/
lemma TaskRecord.decode?_render_of_isReadable {r : TaskRecord}
    (h : r.userDef.isReadable 126 = true) :
    Json.decode? read? (Json.render r.toJson) = some r := by
  have hoptional : ∀ s, (Value.optional s).isIntegral = true := by
    intro s
    cases s <;> simp [Value.optional, Value.isIntegral]
  have hv : r.toJson.isIntegral = true := by
    simp [toJson, Value.isIntegral, Json.membersIntegral, hoptional,
      Json.isIntegral_of_isReadable _ 126 h]
  rw [Json.decode?_render _ hv, read?_toJson h]

/-- The members of the object of a record but for the free-form data. -/
def TaskRecord.heading (r : TaskRecord) : List (String × Value) :=
  [("id", .string r.id), ("task_state", .string r.state.word), ("type", .string r.taskType),
    ("sub_type", .string r.subType), ("priority", .string r.priority.word),
    ("worker_id", .optional r.workerId), ("worker_task_id", .optional r.workerTaskId),
    ("created_at", .string r.createdAt.text), ("updated_at", .string r.updatedAt.text)]

/-- **Whatever the free-form data is, the rest of a task's record is read back from a text if
anything is.**

**Proof sketch.** All members but the free-form data are written in front of it, and they hold no
numbers but integers. So whatever the data is, the text is read as an object that begins with them,
and each field of the record is read back from its own. -/
theorem TaskRecord.decode?_render {r r' : TaskRecord}
    (h : Json.decode? TaskRecord.read? (Json.render r.toJson) = some r') :
    r' = { r with userDef := r'.userDef } := by
  obtain ⟨t, ht, hread⟩ := Option.bind_eq_some_iff.mp h
  have hintegral : Json.membersIntegral r.heading = true := by
    have hoptional : ∀ s, (Value.optional s).isIntegral = true := by
      intro s
      cases s <;> simp [Value.optional, Value.isIntegral]
    simp [heading, Json.membersIntegral, Value.isIntegral, hoptional]
  obtain ⟨ts, rfl⟩ := Json.ofString?_render_object hintegral (by simp [heading])
    ("user_def", r.userDef) [] ht
  unfold TaskRecord.read? at hread
  obtain ⟨fs, hfs, hread⟩ := Option.bind_eq_some_iff.mp hread
  have hnames : ∀ m ∈ r.heading, m.1 ∈ ["id", "task_state", "type", "sub_type", "priority",
      "worker_id", "worker_task_id", "created_at", "updated_at", "user_def"] := by
    simp [heading]
  have hlookup : ∀ m ∈ r.heading, fs.lookup m.1 = some ⟨126, Tree.ofValue m.2⟩ := fun m hm =>
    Json.lookup_fields?_append (by simp [heading]) hm (hnames m hm) hfs
  simp only [heading, List.forall_mem_cons] at hlookup
  obtain ⟨hid, hstate, htype, hsub, hpriority, hworker, htask, hcreated, hupdated, -⟩ := hlookup
  simp only [Fields.defaulted, Fields.required, hid, hstate, htype, hsub, hpriority, hworker, htask,
    hcreated, hupdated, TaskRecord.time?, Json.text?_ofValue, TaskState.read?_ofValue,
    Priority.read?_ofValue, Json.nullable?_ofValue, Option.bind_some, Option.bind_eq_bind,
    Timestamp.ofString?_text] at hread
  obtain ⟨userDef, -, hread⟩ := Option.bind_eq_some_iff.mp hread
  obtain rfl := Option.some.inj hread
  rfl

/-! ## Records in Redis -/

/-- **What is written about a worker is read back.** -/
theorem RedisWorkers.record?_payload {r : WorkerRecord} (h : r.weight < Dialect.bound32) :
    RedisWorkers.record? (RedisWorkers.payload r) = .ok r := by
  rw [RedisWorkers.record?, RedisWorkers.payload, WorkerRecord.decode?_render h]

/-- **What is written about a task is read back.** -/
theorem RedisTasks.record?_render {r : TaskRecord} (h : r.userDef.isReadable 126 = true) :
    RedisTasks.record? r.id (Json.render r.toJson) = .ok r := by
  have hid : (if r.id = "" then { r with id := r.id } else r) = r := by
    split <;> rfl
  rw [RedisTasks.record?, TaskRecord.decode?_render_of_isReadable h]
  exact congrArg Except.ok hid

/-- **What is read of a written record differs from it in the free-form data at most.** -/
theorem RedisTasks.record?_render_eq {r r' : TaskRecord}
    (h : RedisTasks.record? r.id (Json.render r.toJson) = .ok r') :
    r' = { r with userDef := r'.userDef } := by
  unfold RedisTasks.record? at h
  split at h
  · rename_i found hdecode
    have hfound := TaskRecord.decode?_render hdecode
    have hid : found.id = r.id := by rw [hfound]
    have hsame : (if found.id = "" then { found with id := r.id } else found) = found := by
      rw [← hid]
      split <;> rfl
    rw [hsame] at h
    obtain rfl := Except.ok.inj h
    exact hfound
  · exact absurd h (by simp)

end ConversionScheduler
