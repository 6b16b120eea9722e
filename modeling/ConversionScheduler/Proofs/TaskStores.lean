import ConversionScheduler.Proofs.Records
import ConversionScheduler.Proofs.RedisServer
/-!
# What the stores of the tasks remember

In memory a task is an entry of a table, in Redis a field of a hash that holds a text. Either way
the record of a task that was written is what is read next, except that an update leaves the time of
creation as it was.

## Main definitions

* `TaskBackend` — a store of either kind.
* `TaskBackend.IsUndisturbed` — nothing comes between the store and its data.
* `TaskBackend.Accepts` — the free-form data that the store can read again.

## Main results

* `RedisTasks.run_load`, `RedisTasks.run_save` — reading and writing a record in Redis.
* `RedisTasks.run_get_of_save` — what is written is read next.
* `RedisTasks.run_get_of_update` — what is read after an update in Redis.
* `TaskBackend.get_of_update` — the same for a store of either kind.
-/

namespace ConversionScheduler

open Redis (Server Dialogue Reply)

/-! ## Tasks in memory -/

namespace MemoryTasks

variable {now : Timestamp} {t : Task} {ts ts' : MemoryTasks}

/-- **What is read after an update in memory** is what was written, with the time of creation that
was there before. -/
theorem get_of_update (h : update now t ts = (.ok (), ts')) :
    ∃ created, get t.id ts' =
      (.ok (.ofRecord { t.toRecord now with createdAt := created }), ts') := by
  rw [update] at h
  cases hold : ts.get? t.id with
  | none =>
    rw [hold] at h
    exact absurd (congrArg Prod.fst h) (by simp)
  | some old =>
    rw [hold] at h
    obtain ⟨-, rfl⟩ := Prod.mk.inj h
    refine ⟨old.createdAt, ?_⟩
    rw [get, Table.get?_insert_self]

end MemoryTasks

/-! ## Tasks in Redis -/

namespace RedisTasks

variable {t : RedisTasks} {server server' : Server} {fs : List (String × String)}

/-- Reading a record. -/
lemma run_load (h : server.fields? t.hashKey = some fs) (id : String) :
    (t.load id).run server =
      (match fs.lookup id with
        | none => .ok none
        | some text => (record? id text).map some, server) := by
  have hexec := Server.execute_hget h id
  rw [load]
  cases hlookup : fs.lookup id with
  | none =>
    rw [hlookup] at hexec
    have hask := Dialogue.run_ask t.connection Reply.optionalText? hexec
      (by simp [Server.bulk?]) rfl
    rw [Dialogue.run_bind_ok hask]
    rfl
  | some text =>
    rw [hlookup] at hexec
    have hask := Dialogue.run_ask t.connection Reply.optionalText? hexec
      (by simp [Server.bulk?]) rfl
    rw [Dialogue.run_bind_ok hask]
    rfl

/-- Nothing is read under a key that does not hold a hash. -/
lemma run_load_of_wrongType (h : server.fields? t.hashKey = none) (id : String) :
    ∃ e, (t.load id).run server = (.error e, server) := by
  have hexec : server.execute (.hget t.hashKey id) = (Server.wrongType, server) :=
    Server.execute_of_wrongType h (.inl ⟨id, rfl⟩)
  have hask := Dialogue.run_ask_error t.connection Reply.optionalText? hexec
  exact ⟨_, Dialogue.run_bind_error hask _⟩

/-- Writing a record. -/
lemma run_save (h : server.fields? t.hashKey = some fs) (r : TaskRecord) :
    ∃ server', (t.save r).run server = (.ok (), server') ∧
      server'.fields? t.hashKey = some (Server.setField fs (r.id, Json.render r.toJson)) ∧
      (server.IsLasting t.hashKey → server'.IsLasting t.hashKey) := by
  obtain ⟨n, server', hexec, hfields, hlasting⟩ :=
    Server.execute_hset h (r.id, Json.render r.toJson)
  have hask := Dialogue.run_ask t.connection Reply.integer? hexec (by simp) rfl
  exact ⟨server', Dialogue.run_bind_ok hask _, hfields, hlasting⟩

/-- What is read after a record was written. -/
lemma run_get_of_save (h : server.fields? t.hashKey = some fs) {r : TaskRecord}
    (hdata : r.userDef.isReadable 126 = true) (hrun : (t.save r).run server = (.ok (), server')) :
    (t.get r.id).run server' = (.ok (.ofRecord r), server') := by
  obtain ⟨server₁, hsave, hfields, -⟩ := run_save h r
  have hserver : server₁ = server' := by
    rw [hrun] at hsave
    exact (congrArg Prod.snd hsave).symm
  rw [hserver] at hfields
  have hload := run_load hfields r.id
  rw [Server.lookup_setField, if_pos rfl] at hload
  simp only [record?_render hdata] at hload
  rw [get, Dialogue.run_bind_ok hload]
  rfl

/-- An update that succeeds writes a record in place of an earlier one. -/
lemma exists_save_of_update {now : Timestamp} {task : Task}
    (h : (t.update now task).run server = (.ok (), server')) :
    ∃ fs created, server.fields? t.hashKey = some fs ∧
      (t.save { task.toRecord now with createdAt := created }).run server = (.ok (), server') := by
  rw [update] at h
  cases hfields : server.fields? t.hashKey with
  | none =>
    obtain ⟨e, hload⟩ := run_load_of_wrongType hfields task.id
    rw [Dialogue.run_bind_error hload] at h
    exact absurd (congrArg Prod.fst h) (by simp)
  | some fs =>
    rcases hload : (t.load task.id).run server with ⟨e | old, server₁⟩
    · rw [Dialogue.run_bind_error hload] at h
      exact absurd (congrArg Prod.fst h) (by simp)
    · have hsame : server₁ = server := by
        rw [run_load hfields] at hload
        exact (congrArg Prod.snd hload).symm
      rw [Dialogue.run_bind_ok hload, hsame] at h
      cases old with
      | none => exact absurd (congrArg Prod.fst h) (by simp)
      | some old => exact ⟨fs, old.createdAt, rfl, h⟩

/-- **What is read after an update in Redis** is what was written, with the time of creation that
was there before. -/
theorem run_get_of_update {now : Timestamp} {task : Task}
    (hdata : task.userDef.isReadable 126 = true)
    (h : (t.update now task).run server = (.ok (), server')) :
    ∃ created, (t.get task.id).run server' =
      (.ok (.ofRecord { task.toRecord now with createdAt := created }), server') := by
  obtain ⟨fs, created, hfields, hsave⟩ := exists_save_of_update h
  exact ⟨created, run_get_of_save hfields hdata hsave⟩

end RedisTasks

/-! ## A store of either kind -/

/-- An operation on the tasks in memory. -/
lemma Site.onTasks_eq {α : Type} {q : Timestamp → Query MemoryTasks α} {s : Site}
    {r : Except Failure α} {ts : MemoryTasks} (h : q s.now s.tasks = (r, ts)) :
    Site.onTasks q s = (r, { s with tasks := ts }) := by
  simp only [Site.onTasks, Query.onPart, h]

/-- Where the tasks are kept. -/
inductive TaskBackend
  | memory
  | redis (t : RedisTasks)

namespace TaskBackend

/-- The store. -/
def store : TaskBackend → TaskStore Site
  | memory => Site.memoryTasks
  | redis t => Site.redisTasks t

/-- Whether nothing comes between the store and its data. -/
def IsUndisturbed : TaskBackend → Site → Prop
  | memory, _ => True
  | redis _, s => s.line.IsPlain

/-- Whether the store can read free-form data again. In Redis it is one level down in a text. -/
def Accepts : TaskBackend → Json.Value → Prop
  | memory, _ => True
  | redis _, v => v.isReadable 126 = true

variable {b : TaskBackend} {s s' : Site} {t : Task}

/-- **What is read after an update** is what was written, with the time of creation that was there
before.

**Proof sketch.** Cases on the backend. An update that succeeds has found a record and written one
with its time of creation, and this one is read under the same id. -/
theorem get_of_update (hs : b.IsUndisturbed s) (ht : b.Accepts t.userDef)
    (h : b.store.update t s = (.ok (), s')) :
    ∃ created s'', b.store.get t.id s' =
      (.ok (.ofRecord { t.toRecord s.now with createdAt := created }), s'') := by
  cases b with
  | memory =>
    have hrun : Site.onTasks (fun now => MemoryTasks.update now t) s = (.ok (), s') := h
    rcases hupdate : MemoryTasks.update s.now t s.tasks with ⟨r, ts⟩
    rw [Site.onTasks_eq hupdate] at hrun
    obtain ⟨rfl, rfl⟩ := Prod.mk.inj hrun
    obtain ⟨created, hget⟩ := MemoryTasks.get_of_update hupdate
    exact ⟨created, _, Site.onTasks_eq (q := fun _ => MemoryTasks.get t.id)
      (s := { s with tasks := ts }) hget⟩
  | redis r =>
    have hrun : Site.onLine (fun now => r.update now t) s = (.ok (), s') := h
    obtain ⟨sent, hupdate⟩ := Site.onLine_of_isPlain (fun now => r.update now t) hs
    rcases hdialogue : (r.update s.now t).run s.line.server with ⟨e | ⟨⟩, server'⟩
    · rw [hupdate, hdialogue] at hrun
      exact absurd (congrArg Prod.fst hrun) (by simp [Except.mapError])
    · rw [hupdate, hdialogue] at hrun
      obtain ⟨-, rfl⟩ := Prod.mk.inj hrun
      obtain ⟨created, hget⟩ := RedisTasks.run_get_of_update ht hdialogue
      obtain ⟨sent', hline⟩ := Site.onLine_of_isPlain (fun _ => r.get t.id)
        (s := { s with line := { s.line with server := server', sent := sent } }) hs
      simp only [hget] at hline
      exact ⟨created, _, hline⟩

end TaskBackend

end ConversionScheduler
