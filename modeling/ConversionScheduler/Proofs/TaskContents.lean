import ConversionScheduler.Proofs.Registry
import ConversionScheduler.Proofs.TaskStores
/-!
# What the stores of the tasks hold

A store of tasks holds something under some ids: in memory a record, in Redis a text that may or may
not be one. That is all that its answers depend on, and a call changes no more than what is under
the id that it is about.

## Main definitions

* `TaskEntry`, `TaskContents` — what is under one id, and under all of them.
* `TaskCall`, `TaskCall.perform` — the calls of a store.
* `TaskContents.respond` — what a call answers, and what is held after it.
* `TaskBackend.contents?` — what a store holds, unless its key holds something else than a hash.

## Main results

* `TaskBackend.perform_eq` — the stores of either kind answer as their contents say.
-/

namespace ConversionScheduler

open Redis (Server Dialogue Reply)

/-! ## Contents and calls -/

/-- What a store of tasks holds under an id. -/
inductive TaskEntry
  | record (r : TaskRecord)
  | text (s : String)
deriving DecidableEq

/-- The record of an entry that was found under an id. -/
def TaskEntry.record? (id : String) : TaskEntry → Except Error TaskRecord
  | record r => .ok r
  | text s => RedisTasks.record? id s

/-- What a store of tasks holds, by id. -/
abbrev TaskContents := String → Option TaskEntry

/-- A call of the store of the tasks. -/
inductive TaskCall
  | add (t : Task)
  | get (id : String)
  | update (t : Task)
  | remove (id : String)
deriving DecidableEq

/-- What a call brings. -/
inductive TaskAnswer
  | nothing
  | task (t : Task)
deriving DecidableEq

namespace TaskCall

/-- Performs a call. -/
def perform {ω : Type} (store : TaskStore ω) : TaskCall → Query ω TaskAnswer
  | add t => (fun _ => .nothing) <$> store.add t
  | get id => .task <$> store.get id
  | update t => (fun _ => .nothing) <$> store.update t
  | remove id => (fun _ => .nothing) <$> store.remove id

/-- The id that a call is about. -/
def subject : TaskCall → String
  | add t | update t => t.id
  | get id | remove id => id

end TaskCall

namespace TaskContents

variable (m : TaskContents)

/-- The record under an id. -/
def load (id : String) : Except Error TaskRecord :=
  match m id with
  | some e => e.record? id
  | none => .error (.taskNotFound id)

/-- What a call answers, and what is held after it, if records are kept as `entry` says. -/
def respond (entry : TaskRecord → TaskEntry) (now : Timestamp) :
    TaskCall → Except Failure TaskAnswer × TaskContents
  | .add t => (.ok .nothing, Function.update m t.id (some (entry (t.toRecord now))))
  | .get id =>
    match m.load id with
    | .ok r => (.ok (.task (.ofRecord r)), m)
    | .error e => (.error (.reported e), m)
  | .update t =>
    match m.load t.id with
    | .ok old =>
      (.ok .nothing,
        Function.update m t.id (some (entry { t.toRecord now with createdAt := old.createdAt })))
    | .error e => (.error (.reported e), m)
  | .remove id => (.ok .nothing, Function.update m id none)

variable {m}

/-- A call that fails changes nothing. -/
lemma respond_of_error {entry : TaskRecord → TaskEntry} {now : Timestamp} {call : TaskCall}
    {e : Failure} (h : (m.respond entry now call).1 = .error e) :
    (m.respond entry now call).2 = m := by
  cases call with
  | add t | remove id => exact absurd h (by simp [respond])
  | get id =>
    simp only [respond]
    split <;> rfl
  | update t =>
    simp only [respond] at h ⊢
    split at h
    · exact absurd h (by simp)
    · rfl

end TaskContents

/-! ## In Redis -/

namespace Redis.Dialogue

variable {α β : Type}

/-- A function of the result leaves the server alone. -/
lemma run_map (f : α → β) (d : Dialogue α) (s : Server) :
    (f <$> d).run s = ((d.run s).1.map f, (d.run s).2) := by
  rcases hrun : d.run s with ⟨e | a, s'⟩
  · exact run_bind_error hrun _
  · exact run_bind_ok hrun _

end Redis.Dialogue

namespace RedisTasks

variable {t : RedisTasks} {server : Server} {fs : List (String × String)}

/-- What the fields of the hash hold. -/
def contents (fs : List (String × String)) : TaskContents := fun id => (fs.lookup id).map .text

/-- Setting a field writes the entry of its name. -/
lemma contents_setField (f : String × String) :
    contents (Server.setField fs f) = Function.update (contents fs) f.1 (some (.text f.2)) := by
  funext id
  rw [contents, Server.lookup_setField, Function.update_apply]
  split <;> rfl

/-- Deleting a field empties the entry of its name. -/
lemma contents_remove (id : String) :
    contents (fs.filter fun f => !(List.contains [id] f.1)) =
      Function.update (contents fs) id none := by
  funext id'
  have hlookup := Server.lookup_filter (fun name => !(List.contains [id] name)) fs id'
  rw [contents, hlookup]
  by_cases hid : id' = id
  · simp [hid]
  · simp [hid, contents]

/-- What follows when a record was loaded, or nothing if there is none.

**Proof sketch.** Cases on the field of the hash and on whether its text can be read, which are the
cases of loading from the contents as well. -/
lemma run_load_bind {α : Type} (h : server.fields? t.hashKey = some fs) (id : String)
    (f : TaskRecord → Dialogue α) :
    (t.load id >>= fun
        | some r => f r
        | none => .done (.error (.taskNotFound id))).run server =
      match (contents fs).load id with
      | .ok r => (f r).run server
      | .error e => (.error e, server) := by
  have hload := run_load h id
  unfold TaskContents.load contents
  cases hlookup : fs.lookup id with
  | none =>
    rw [hlookup] at hload
    exact Dialogue.run_bind_ok hload _
  | some text =>
    rw [hlookup] at hload
    simp only [Option.map_some, TaskEntry.record?] at hload ⊢
    cases hrecord : record? id text with
    | error e =>
      rw [hrecord] at hload
      exact Dialogue.run_bind_error hload _
    | ok r =>
      rw [hrecord] at hload
      exact Dialogue.run_bind_ok hload _

/-- Saving a record changes what is under its id. -/
lemma run_save_contents (h : server.fields? t.hashKey = some fs) (r : TaskRecord) :
    ∃ server' fs', (t.save r).run server = (.ok (), server') ∧
      server'.fields? t.hashKey = some fs' ∧
      (server.IsLasting t.hashKey → server'.IsLasting t.hashKey) ∧
      contents fs' = Function.update (contents fs) r.id (some (.text (Json.render r.toJson))) := by
  obtain ⟨server', hrun, hfields, hlasting⟩ := run_save h r
  exact ⟨server', _, hrun, hfields, hlasting, contents_setField _⟩

/-- What is said to the server to make a call. -/
def dialogue (t : RedisTasks) (now : Timestamp) : TaskCall → Dialogue TaskAnswer
  | .add task => (fun _ => .nothing) <$> t.add now task
  | .get id => .task <$> t.get id
  | .update task => (fun _ => .nothing) <$> t.update now task
  | .remove id => (fun _ => .nothing) <$> t.remove id

/-- **The server answers as the fields of the hash say.**

**Proof sketch.** Cases on the call. A call is one command, or one that reads and one that writes;
the contents of the hash answer the reading, and the field that is written or deleted is the one
entry of the contents that changes. -/
theorem run_dialogue (h : server.fields? t.hashKey = some fs) (now : Timestamp) (call : TaskCall) :
    ∃ r server' fs', (t.dialogue now call).run server = (r, server') ∧
      server'.fields? t.hashKey = some fs' ∧
      (server.IsLasting t.hashKey → server'.IsLasting t.hashKey) ∧
      (r.mapError Failure.reported, contents fs') =
        (contents fs).respond (fun r => .text (Json.render r.toJson)) now call := by
  cases call with
  | add task =>
    obtain ⟨server', fs', hrun, hfields, hlasting, hcontents⟩ :=
      run_save_contents h (task.toRecord now)
    refine ⟨.ok .nothing, server', fs', ?_, hfields, hlasting, congrArg (Prod.mk _) hcontents⟩
    rw [dialogue, Dialogue.run_map, add, hrun]
    rfl
  | get id =>
    have hrun : (t.get id).run server = _ := run_load_bind h id fun r => pure (Task.ofRecord r)
    rw [dialogue, Dialogue.run_map, hrun]
    simp only [TaskContents.respond]
    cases (contents fs).load id with
    | error e => exact ⟨_, server, fs, rfl, h, fun hlasting => hlasting, rfl⟩
    | ok r => exact ⟨_, server, fs, rfl, h, fun hlasting => hlasting, rfl⟩
  | update task =>
    have hrun : (t.update now task).run server = _ := run_load_bind h task.id fun old =>
      t.save { task.toRecord now with createdAt := old.createdAt }
    rw [dialogue, Dialogue.run_map, hrun]
    simp only [TaskContents.respond]
    cases (contents fs).load task.id with
    | error e => exact ⟨_, server, fs, rfl, h, fun hlasting => hlasting, rfl⟩
    | ok old =>
      obtain ⟨server', fs', hsave, hfields, hlasting, hcontents⟩ := run_save_contents h
        { task.toRecord now with createdAt := old.createdAt }
      simp only [hsave]
      exact ⟨_, server', fs', rfl, hfields, hlasting, congrArg (Prod.mk _) hcontents⟩
  | remove id =>
    obtain ⟨n, server', hexec, hfields, hlasting⟩ := Server.execute_hdel h [id]
    have hask := Dialogue.run_ask t.connection Reply.integer? hexec (by simp) rfl
    refine ⟨.ok .nothing, server', _, ?_, hfields, hlasting,
      congrArg (Prod.mk _) (contents_remove id)⟩
    rw [dialogue, Dialogue.run_map, remove, Dialogue.run_bind_ok hask]
    rfl

/-- Every call is refused if the key holds something else than a hash.

**Proof sketch.** The first command of every call is a command on hashes, which the server refuses,
and a dialogue ends with the first refusal. -/
lemma run_dialogue_of_wrongType (h : server.fields? t.hashKey = none) (now : Timestamp)
    (call : TaskCall) :
    ∃ e, (t.dialogue now call).run server = (.error e, server) := by
  have hbind : ∀ {α β : Type} {command : Redis.Command} {read : Reply → Option α}
      (f : α → Dialogue β), server.execute command = (Server.wrongType, server) →
      ∃ e, (t.connection.ask command read >>= f).run server = (.error e, server) :=
    fun f hexec => ⟨_, Dialogue.run_bind_error (Dialogue.run_ask_error _ _ hexec) f⟩
  -- whatever the first command is, it names the key, and the dialogue ends there
  have hsave : ∀ r, ∃ e, (t.save r).run server = (.error e, server) := fun r =>
    hbind _ (Server.execute_of_wrongType h (.inr (.inl ⟨_, rfl⟩)))
  have hload : ∀ {β : Type} (id : String) (f : Option TaskRecord → Dialogue β),
      ∃ e, (t.load id >>= f).run server = (.error e, server) := by
    intro β id f
    obtain ⟨e, he⟩ := run_load_of_wrongType h id
    exact ⟨e, Dialogue.run_bind_error he f⟩
  have hremove : ∀ id, ∃ e, (t.remove id).run server = (.error e, server) := fun id =>
    hbind _ (Server.execute_of_wrongType h (.inr (.inr ⟨_, rfl⟩)))
  have hmap : ∀ {α β : Type} {d : Dialogue α} (f : α → β),
      (∃ e, d.run server = (.error e, server)) →
      ∃ e, (f <$> d).run server = (.error e, server) := by
    rintro α β d f ⟨e, he⟩
    exact ⟨e, Dialogue.run_bind_error he _⟩
  cases call with
  | add task => exact hmap _ (hsave _)
  | get id => exact hmap _ (hload id _)
  | update task => exact hmap _ (hload task.id _)
  | remove id => exact hmap _ (hremove id)

end RedisTasks

/-! ## In memory -/

namespace MemoryTasks

variable {ts : MemoryTasks}

/-- What a table of tasks holds. -/
def contents (ts : MemoryTasks) : TaskContents := fun id => (ts.get? id).map .record

/-- Inserting a record writes the entry of its id. -/
lemma contents_insert (id : String) (r : TaskRecord) :
    contents (ts.insert id r) = Function.update (contents ts) id (some (.record r)) := by
  funext id'
  rw [contents, Table.get?_insert, Function.update_apply]
  split <;> rfl

/-- Erasing a record empties the entry of its id. -/
lemma contents_erase (id : String) :
    contents (ts.erase id) = Function.update (contents ts) id none := by
  funext id'
  rw [contents, Table.get?_erase, Function.update_apply]
  split <;> rfl

/-- A record in memory is loaded as it is. -/
lemma load_contents (id : String) :
    (contents ts).load id = match ts.get? id with
      | some r => .ok r
      | none => .error (.taskNotFound id) := by
  unfold TaskContents.load contents
  cases ts.get? id <;> rfl

/-- What is done to the table to make a call. -/
def perform (now : Timestamp) : TaskCall → Query MemoryTasks TaskAnswer
  | .add t => (fun _ => .nothing) <$> add now t
  | .get id => .task <$> get id
  | .update t => (fun _ => .nothing) <$> update now t
  | .remove id => (fun _ => .nothing) <$> remove id

/-- **The table answers as its entries say.** -/
theorem perform_eq (now : Timestamp) (call : TaskCall) (ts : MemoryTasks) :
    ((perform now call ts).1, contents (perform now call ts).2) =
      (contents ts).respond .record now call := by
  cases call with
  | add t => exact congrArg (Prod.mk _) (contents_insert t.id _)
  | get id =>
    simp only [perform, TaskContents.respond, load_contents, Query.map_apply, get]
    cases ts.get? id <;> rfl
  | update t =>
    simp only [perform, TaskContents.respond, load_contents, Query.map_apply, update]
    cases ts.get? t.id with
    | none => rfl
    | some old => exact congrArg (Prod.mk _) (contents_insert t.id _)
  | remove id => exact congrArg (Prod.mk _) (contents_erase id)

end MemoryTasks

/-! ## A store of either kind -/

namespace TaskBackend

/-- How a store keeps records. -/
def entry : TaskBackend → TaskRecord → TaskEntry
  | memory, r => .record r
  | redis _, r => .text (Json.render r.toJson)

/-- What a store holds. In Redis that is nothing at all if its key holds something else than a
hash. -/
def contents? : TaskBackend → Site → Option TaskContents
  | memory, s => some (MemoryTasks.contents s.tasks)
  | redis t, s => (s.line.server.fields? t.hashKey).map RedisTasks.contents

/-- Whether what a store holds does not run out. -/
def IsLasting : TaskBackend → Site → Prop
  | memory, _ => True
  | redis t, s => s.line.server.IsLasting t.hashKey

variable {b : TaskBackend} {s : Site}

/-- A call to memory changes the tasks and nothing else of the site. -/
lemma perform_memory (call : TaskCall) (s : Site) : call.perform Site.memoryTasks s =
    ((MemoryTasks.perform s.now call s.tasks).1,
      { s with tasks := (MemoryTasks.perform s.now call s.tasks).2 }) := by
  have hmap : ∀ {α : Type} (f : α → TaskAnswer) (q : Timestamp → Query MemoryTasks α),
      (f <$> Site.onTasks q) s =
        (((f <$> q s.now) s.tasks).1, { s with tasks := ((f <$> q s.now) s.tasks).2 }) :=
    fun f q => by rw [Query.map_apply, Query.map_apply, Site.onTasks, Query.onPart]
  cases call with
  | add t => exact hmap (fun _ => .nothing) fun now => MemoryTasks.add now t
  | get id => exact hmap .task fun _ => MemoryTasks.get id
  | update t => exact hmap (fun _ => .nothing) fun now => MemoryTasks.update now t
  | remove id => exact hmap (fun _ => .nothing) fun _ => MemoryTasks.remove id

/-- Over a plain line, a call to Redis changes the server and what was sent, and nothing else of the
site. -/
lemma perform_redis {t : RedisTasks} (h : s.line.IsPlain) {call : TaskCall}
    {r : Except Error TaskAnswer} {server' : Server}
    (hrun : (t.dialogue s.now call).run s.line.server = (r, server')) :
    ∃ sent, call.perform (Site.redisTasks t) s = (r.mapError .reported,
      { s with line := { s.line with server := server', sent := sent } }) := by
  have hmap : ∀ {α : Type} (f : α → TaskAnswer) (d : Timestamp → Dialogue α),
      (f <$> d s.now).run s.line.server = (r, server') →
      ∃ sent, (f <$> Site.onLine d) s = (r.mapError .reported,
        { s with line := { s.line with server := server', sent := sent } }) := by
    intro α f d hrun
    obtain ⟨sent, honline⟩ := Site.onLine_of_isPlain d h
    rw [Dialogue.run_map] at hrun
    obtain ⟨rfl, rfl⟩ := Prod.mk.inj hrun
    refine ⟨sent, ?_⟩
    rw [Query.map_apply, honline]
    cases ((d s.now).run s.line.server).1 <;> rfl
  cases call with
  | add task => exact hmap (fun _ => .nothing) (fun now => t.add now task) hrun
  | get id => exact hmap .task (fun _ => t.get id) hrun
  | update task => exact hmap (fun _ => .nothing) (fun now => t.update now task) hrun
  | remove id => exact hmap (fun _ => .nothing) (fun _ => t.remove id) hrun

/-- **The stores of either kind answer as their contents say.** -/
theorem perform_eq (hs : b.IsUndisturbed s) {m : TaskContents} (hm : b.contents? s = some m)
    (call : TaskCall) :
    ∃ s', call.perform b.store s = ((m.respond b.entry s.now call).1, s') ∧
      b.contents? s' = some (m.respond b.entry s.now call).2 ∧ b.IsUndisturbed s' ∧
      (b.IsLasting s → b.IsLasting s') := by
  cases b with
  | memory =>
    obtain rfl := Option.some.inj hm
    have hrespond := MemoryTasks.perform_eq s.now call s.tasks
    obtain ⟨hanswer, hcontents⟩ := Prod.mk.inj hrespond
    refine ⟨_, (perform_memory call s).trans (congrArg (·, _) hanswer), ?_, trivial, id⟩
    exact congrArg some hcontents
  | redis t =>
    obtain ⟨fs, hfields, rfl⟩ := Option.map_eq_some_iff.mp hm
    obtain ⟨r, server', fs', hrun, hfields', hlasting, hrespond⟩ :=
      RedisTasks.run_dialogue hfields s.now call
    obtain ⟨hanswer, hcontents⟩ := Prod.mk.inj hrespond
    obtain ⟨sent, hperform⟩ := perform_redis hs hrun
    refine ⟨_, hperform.trans (congrArg (·, _) hanswer), ?_, hs, hlasting⟩
    exact (congrArg (Option.map _) hfields').trans (congrArg some hcontents)

/-- Every call is refused if the key in Redis holds something else than a hash. -/
theorem perform_of_wrongType (hs : b.IsUndisturbed s) (hm : b.contents? s = none)
    (call : TaskCall) :
    ∃ e s', call.perform b.store s = (.error e, s') ∧ b.contents? s' = none ∧
      b.IsUndisturbed s' := by
  cases b with
  | memory => exact absurd hm (by simp [contents?])
  | redis t =>
    have hfields : s.line.server.fields? t.hashKey = none := Option.map_eq_none_iff.mp hm
    obtain ⟨e, hrun⟩ := RedisTasks.run_dialogue_of_wrongType hfields s.now call
    obtain ⟨sent, hperform⟩ := perform_redis hs hrun
    exact ⟨_, _, hperform, hm, hs⟩

end TaskBackend

end ConversionScheduler
