import ConversionScheduler.Application
import ConversionScheduler.Proofs.Faults
import ConversionScheduler.Proofs.WorkerOperations
/-!
# The tasks are left to their own store

In the world of a scheduler the tasks are changed by the calls of their own store only. The workers
may be kept by the same server, but never under the key of the tasks. A call of either store may
fail, and a call about tasks that fails leaves them as they were.

## Main definitions

* `TaskView` — where the tasks are to be found in a world.
* `TaskView.sparing` — the conduct of everybody else: the tasks are left alone.
* `Stores.KeepTasks` — stores that answer as the tasks in their world say.
* `Config.tasks` — where a configuration keeps the tasks.

## Main results

* `RedisWorkers.avoids_add` and so on — the key of the tasks is never named by the other store.
* `TaskBackend.keepTasks_withFaults` — some of the calls may fail.
* `Site.keepTasks` — the stores of every configuration keep the tasks.
-/

namespace ConversionScheduler

open Redis (Server Dialogue Reply)

/-! ## Keeping tasks -/

/-- Where the tasks are to be found in a world. -/
structure TaskView (ω : Type) where
  contents? : ω → Option TaskContents
  /-- How a record is kept. -/
  entry : TaskRecord → TaskEntry
  /-- Whether nothing comes between the stores and their data. -/
  IsSound : ω → Prop

/-- The conduct in which the tasks are left alone. -/
def TaskView.sparing {ω : Type} (v : TaskView ω) : Conduct ω where
  leads w w' := v.IsSound w → v.IsSound w' ∧ v.contents? w' = v.contents? w
  refl _ hw := ⟨hw, rfl⟩
  trans h h' hw :=
    have hu := h hw
    have hv := h' hu.1
    ⟨hv.1, hv.2.trans hu.2⟩

/-- Whether stores answer as the tasks in their world say, and leave them alone otherwise. -/
structure Stores.KeepTasks {ω : Type} (stores : Stores ω) (v : TaskView ω) : Prop where
  /-- A call about tasks fails and changes nothing, or does what it should. -/
  perform : ∀ (call : TaskCall) {w : ω}, v.IsSound w →
    v.IsSound (call.perform stores.tasks w).2 ∧
      ((∃ e, (call.perform stores.tasks w).1 = .error e) ∧
          v.contents? (call.perform stores.tasks w).2 = v.contents? w ∨
        ∃ m, v.contents? w = some m ∧
          (call.perform stores.tasks w).1 = (m.respond v.entry (stores.now w) call).1 ∧
          v.contents? (call.perform stores.tasks w).2 =
            some (m.respond v.entry (stores.now w) call).2)
  workers : stores.workers.Observes v.sparing
  close : ∀ w, v.sparing.leads w (stores.tasks.close w).2

namespace Stores.KeepTasks

variable {ω : Type} {stores : Stores ω} {v : TaskView ω} {w w' : ω}

/-- A call that brings nothing fails, or does what it should. -/
lemma perform_unit (h : stores.KeepTasks v) (hw : v.IsSound w) (call : TaskCall)
    {q : Query ω Unit} (hq : call.perform stores.tasks = (fun _ => .nothing) <$> q)
    {a : Except Failure Unit} (hrun : q w = (a, w')) :
    v.IsSound w' ∧ ((∃ e, a = .error e) ∧ v.contents? w' = v.contents? w ∨
      ∃ m, v.contents? w = some m ∧ a = .ok () ∧
        (m.respond v.entry (stores.now w) call).1 = .ok .nothing ∧
        v.contents? w' = some (m.respond v.entry (stores.now w) call).2) := by
  have hperform := h.perform call hw
  rw [hq, Query.map_apply, hrun] at hperform
  obtain ⟨hw', ⟨⟨e, he⟩, hsame⟩ | ⟨m, hm, ha, hm'⟩⟩ := hperform
  · cases a with
    | error e' => exact ⟨hw', .inl ⟨⟨e', rfl⟩, hsame⟩⟩
    | ok _ => exact absurd he (by simp [Except.map])
  · cases a with
    | error e' =>
      rw [TaskContents.respond_of_error ha.symm] at hm'
      exact ⟨hw', .inl ⟨⟨e', rfl⟩, hm'.trans hm.symm⟩⟩
    | ok _ => exact ⟨hw', .inr ⟨m, hm, rfl, ha.symm, hm'⟩⟩

/-- Adding a task fails, or writes its record. -/
lemma add (h : stores.KeepTasks v) (hw : v.IsSound w) {t : Task} {a : Except Failure Unit}
    (hrun : stores.tasks.add t w = (a, w')) :
    v.IsSound w' ∧ ((∃ e, a = .error e) ∧ v.contents? w' = v.contents? w ∨
      ∃ m, v.contents? w = some m ∧ a = .ok () ∧
        v.contents? w' =
          some (Function.update m t.id (some (v.entry (t.toRecord (stores.now w)))))) := by
  obtain ⟨hw', hfailed | ⟨m, hm, ha, -, hm'⟩⟩ := h.perform_unit hw (.add t) rfl hrun
  · exact ⟨hw', .inl hfailed⟩
  · exact ⟨hw', .inr ⟨m, hm, ha, hm'⟩⟩

/-- Updating a task fails, or writes its record in place of one that could be read. -/
lemma update (h : stores.KeepTasks v) (hw : v.IsSound w) {t : Task} {a : Except Failure Unit}
    (hrun : stores.tasks.update t w = (a, w')) :
    v.IsSound w' ∧ ((∃ e, a = .error e) ∧ v.contents? w' = v.contents? w ∨
      ∃ m old, v.contents? w = some m ∧ m.load t.id = .ok old ∧ a = .ok () ∧
        v.contents? w' = some (Function.update m t.id
          (some (v.entry { t.toRecord (stores.now w) with createdAt := old.createdAt })))) := by
  obtain ⟨hw', hfailed | ⟨m, hm, ha, hanswer, hm'⟩⟩ :=
    h.perform_unit hw (.update t) rfl hrun
  · exact ⟨hw', .inl hfailed⟩
  · simp only [TaskContents.respond] at hanswer hm'
    cases hload : m.load t.id with
    | error e =>
      rw [hload] at hanswer
      exact absurd hanswer (by simp)
    | ok old =>
      rw [hload] at hm'
      exact ⟨hw', .inr ⟨m, old, hm, hload, ha, hm'⟩⟩

/-- Removing a task fails, or leaves nothing under its id. -/
lemma remove (h : stores.KeepTasks v) (hw : v.IsSound w) {id : String} {a : Except Failure Unit}
    (hrun : stores.tasks.remove id w = (a, w')) :
    v.IsSound w' ∧ ((∃ e, a = .error e) ∧ v.contents? w' = v.contents? w ∨
      ∃ m, v.contents? w = some m ∧ a = .ok () ∧
        v.contents? w' = some (Function.update m id none)) := by
  obtain ⟨hw', hfailed | ⟨m, hm, ha, -, hm'⟩⟩ := h.perform_unit hw (.remove id) rfl hrun
  · exact ⟨hw', .inl hfailed⟩
  · exact ⟨hw', .inr ⟨m, hm, ha, hm'⟩⟩

/-- Reading a task brings the task in its record, and changes nothing. -/
lemma get (h : stores.KeepTasks v) (hw : v.IsSound w) {id : String} {a : Except Failure Task}
    (hrun : stores.tasks.get id w = (a, w')) :
    v.IsSound w' ∧ v.contents? w' = v.contents? w ∧
      ∀ t, a = .ok t → ∃ m r, v.contents? w = some m ∧ m.load id = .ok r ∧ t = .ofRecord r := by
  have hperform := h.perform (.get id) hw
  rw [TaskCall.perform, Query.map_apply, hrun] at hperform
  obtain ⟨hw', ⟨⟨e, he⟩, hsame⟩ | ⟨m, hm, ha, hm'⟩⟩ := hperform
  · refine ⟨hw', hsame, fun t ht => ?_⟩
    rw [ht] at he
    exact absurd he (by simp [Except.map])
  · simp only [TaskContents.respond] at ha hm'
    cases hload : m.load id with
    | error e =>
      rw [hload] at ha hm'
      refine ⟨hw', hm'.trans hm.symm, fun t ht => ?_⟩
      rw [ht] at ha
      exact absurd ha (by simp [Except.map])
    | ok r =>
      rw [hload] at ha hm'
      refine ⟨hw', hm'.trans hm.symm, fun t ht => ⟨m, r, hm, hload, ?_⟩⟩
      rw [ht] at ha
      exact TaskAnswer.task.inj (Except.ok.inj ha)

end Stores.KeepTasks

/-! ## The keys of the two stores -/

namespace RedisWorkers

open Redis.Dialogue

variable {w : RedisWorkers} {t : RedisTasks} {key : String}

/-- The key of the tasks is not that of a worker's record. -/
lemma hashKey_ne_infoKey (h : t.connection = w.connection) (id : String) :
    t.hashKey ≠ w.infoKey id := by
  intro heq
  have hlist := congrArg String.toList heq
  simp only [RedisTasks.hashKey, infoKey, Redis.Connection.key, h, String.toList_append,
    List.append_assoc, List.append_cancel_left_eq] at hlist
  simp at hlist

/-- Nor is it that of the set of ids. -/
lemma hashKey_ne_setKey (h : t.connection = w.connection) : t.hashKey ≠ w.setKey := by
  intro heq
  have hlist := congrArg String.toList heq
  simp only [RedisTasks.hashKey, setKey, Redis.Connection.key, h, String.toList_append,
    List.append_assoc, List.append_cancel_left_eq] at hlist
  simp at hlist

variable (hset : key ≠ w.setKey) (hinfo : ∀ id, key ≠ w.infoKey id)

section Avoids

include hset hinfo

/-- A registration names a record and the set only. -/
lemma avoids_add (r : WorkerRecord) : (w.add r).Avoids key := by
  refine avoids_transact fun c hc => ?_
  rcases List.mem_cons.mp hc with rfl | hc
  · exact fun hmem => hinfo _ (List.mem_singleton.mp hmem)
  · obtain rfl := List.mem_singleton.mp hc
    exact fun hmem => hset (List.mem_singleton.mp hmem)

/-- A removal names a record and the set only. -/
lemma avoids_remove (id : String) : (w.remove id).Avoids key := by
  refine avoids_transact fun c hc => ?_
  rcases List.mem_cons.mp hc with rfl | hc
  · exact fun hmem => hset (List.mem_singleton.mp hmem)
  · obtain rfl := List.mem_singleton.mp hc
    exact fun hmem => hinfo _ (List.mem_singleton.mp hmem)

omit hinfo in
/-- Striking ids off names the set only. -/
lemma avoids_strikeOff (ids : List String) : (w.strikeOff ids).Avoids key := by
  unfold strikeOff
  split
  · trivial
  · refine Avoids.bind (Avoids.attempt (avoids_ask ?_ _)) fun _ => trivial
    exact fun hmem => hset (List.mem_singleton.mp hmem)

/-- A look for a worker names a record, and the set if it strikes off the id. -/
lemma avoids_get (id : String) : (w.get id).Avoids key := by
  refine Avoids.bind (avoids_ask (fun hmem => hinfo _ (List.mem_singleton.mp hmem)) _)
    fun text => ?_
  cases text with
  | some s => trivial
  | none => exact (avoids_strikeOff hset [id]).bind fun _ => trivial

/-- A listing names the set and the records of its ids. -/
lemma avoids_ids : w.ids.Avoids key := by
  refine Avoids.bind (avoids_ask (fun hmem => hset (List.mem_singleton.mp hmem)) _)
    fun members => ?_
  split
  · trivial
  · refine Avoids.bind (avoids_ask (fun hmem => ?_) _) fun records =>
      (avoids_strikeOff hset _).bind fun _ => trivial
    obtain ⟨id, -, hid⟩ := List.mem_map.mp hmem
    exact hinfo id hid.symm

omit hset in
/-- A sign of life names a record only. -/
lemma avoids_heartbeat (now : Timestamp) (r : WorkerRecord) : (w.heartbeat now r).Avoids key := by
  refine Avoids.bind (avoids_ask (fun hmem => hinfo _ (List.mem_singleton.mp hmem)) _)
    fun written => ?_
  split <;> trivial

end Avoids

end RedisWorkers

/-! ## The stores of a site -/

namespace TaskBackend

variable (b : TaskBackend)

/-- Where the tasks are to be found in a site. -/
def view : TaskView Site := ⟨b.contents?, b.entry, b.IsUndisturbed⟩

/-- The same in a world with rules. -/
def viewFaulty : TaskView (Faulty Site) :=
  ⟨fun w => b.contents? w.base, b.entry, fun w => b.IsUndisturbed w.base⟩

variable {b}

/-- Whatever is done to the workers in memory leaves the tasks alone. -/
lemma spares_onWorkers {α : Type} (q : Clock → Query MemoryWorkers α) (s : Site) :
    b.view.sparing.leads s (Site.onWorkers q s).2 := by
  intro hs
  cases b with
  | memory => exact ⟨trivial, rfl⟩
  | redis t => exact ⟨hs, rfl⟩

/-- A dialogue that avoids the key of the tasks leaves them alone. -/
lemma spares_onLine {α : Type} {d : Timestamp → Dialogue α}
    (h : ∀ t, b = redis t → ∀ now, (d now).Avoids t.hashKey) (s : Site) :
    b.view.sparing.leads s (Site.onLine d s).2 := by
  intro hs
  cases b with
  | memory => exact ⟨trivial, rfl⟩
  | redis t =>
    obtain ⟨sent, honline⟩ := Site.onLine_of_isPlain d hs
    have hentry := (h t rfl s.now).entry?_run s.line.server
    rw [honline]
    refine ⟨hs, ?_⟩
    show (Server.fields? _ _).map _ = (Server.fields? _ _).map _
    rw [Server.fields?, Server.fields?, Server.datum?, Server.datum?, hentry]

/-- Lifts what is known of the operations of a store to its calls. -/
lemma observes_of_parts {store : WorkerStore Site} {d : Conduct Site}
    (add : ∀ r s, d.leads s (store.add r s).2) (remove : ∀ id s, d.leads s (store.remove id s).2)
    (get : ∀ id s, d.leads s (store.get id s).2) (ids : ∀ s, d.leads s (store.ids s).2)
    (heartbeat : ∀ r s, d.leads s (store.heartbeat r s).2)
    (close : ∀ s, d.leads s (store.close s).2) : store.Observes d where
  perform call s := by
    cases call with
    | add r => rw [WorkerCall.perform, Query.map_apply]; exact add r s
    | remove id => rw [WorkerCall.perform, Query.map_apply]; exact remove id s
    | get id => rw [WorkerCall.perform, Query.map_apply]; exact get id s
    | ids => rw [WorkerCall.perform, Query.map_apply]; exact ids s
    | heartbeat r => rw [WorkerCall.perform, Query.map_apply]; exact heartbeat r s
  close := close

/-- The store of workers in memory leaves the tasks alone. -/
lemma observes_memoryWorkers (ttl : Duration) :
    (Site.memoryWorkers ttl).Observes b.view.sparing :=
  observes_of_parts (fun _ => spares_onWorkers _) (fun _ => spares_onWorkers _)
    (fun _ => spares_onWorkers _) (spares_onWorkers _) (fun _ => spares_onWorkers _)
    (spares_onWorkers _)

/-- So does the store of workers in Redis, also if the tasks are on the same server. -/
lemma observes_redisWorkers {w : RedisWorkers}
    (h : ∀ t, b = redis t → t.connection = w.connection) :
    (Site.redisWorkers w).Observes b.view.sparing := by
  have hset : ∀ t, b = redis t → t.hashKey ≠ w.setKey := fun t ht =>
    RedisWorkers.hashKey_ne_setKey (h t ht)
  have hinfo : ∀ t, b = redis t → ∀ id, t.hashKey ≠ w.infoKey id := fun t ht =>
    RedisWorkers.hashKey_ne_infoKey (h t ht)
  exact observes_of_parts
    (fun r => spares_onLine fun t ht _ => RedisWorkers.avoids_add (hset t ht) (hinfo t ht) r)
    (fun id => spares_onLine fun t ht _ => RedisWorkers.avoids_remove (hset t ht) (hinfo t ht) id)
    (fun id => spares_onLine fun t ht _ => RedisWorkers.avoids_get (hset t ht) (hinfo t ht) id)
    (spares_onLine fun t ht _ => RedisWorkers.avoids_ids (hset t ht) (hinfo t ht))
    (fun r => spares_onLine fun t ht now => RedisWorkers.avoids_heartbeat (hinfo t ht) now r)
    fun s => b.view.sparing.refl s

/-- A store of tasks of either kind, beside one of workers that leaves them alone. -/
lemma keepTasks {stores : Stores Site} (htasks : stores.tasks = b.store)
    (hworkers : stores.workers.Observes b.view.sparing) (hnow : stores.now = Site.now) :
    stores.KeepTasks b.view where
  perform call s hs := by
    rw [htasks, hnow]
    cases hm : b.contents? s with
    | none =>
      obtain ⟨e, s', hperform, hm', hs'⟩ := perform_of_wrongType hs hm call
      rw [hperform]
      exact ⟨hs', .inl ⟨⟨e, rfl⟩, hm'.trans hm.symm⟩⟩
    | some m =>
      obtain ⟨s', hperform, hm', hs', -⟩ := perform_eq hs hm call
      rw [hperform]
      exact ⟨hs', .inr ⟨m, hm, rfl, hm'⟩⟩
  workers := hworkers
  close s := by
    rw [htasks]
    cases b <;> exact fun hs => ⟨hs, rfl⟩

end TaskBackend

/-! ## Stores that fail -/

/-- **Stores that keep the tasks still do so if some of their calls fail.**

**Proof sketch.** A rule makes a call fail before it reaches the store, which then stays as it is,
or leaves the call to the store. -/
theorem TaskBackend.keepTasks_withFaults {b : TaskBackend} {stores : Stores Site}
    (h : stores.KeepTasks b.view) : stores.withFaults.KeepTasks b.viewFaulty where
  perform call w hw := by
    have hperform := h.perform call hw
    obtain ⟨hbase, hfailed⟩ | ⟨hbase, hanswer⟩ := TaskCall.perform_withFaults stores call w
    · refine ⟨?_, .inl ⟨hfailed, congrArg b.contents? hbase⟩⟩
      show b.IsUndisturbed _
      rw [hbase]
      exact hw
    · rw [← hanswer] at hperform
      show b.IsUndisturbed _ ∧ (_ ∧ b.contents? _ = _ ∨ ∃ m, _ ∧ _ ∧ b.contents? _ = _)
      rw [hbase]
      exact hperform
  workers := {
    perform := fun call w hw => by
      show b.IsUndisturbed _ ∧ b.contents? _ = _
      obtain ⟨hbase, -⟩ | ⟨hbase, -⟩ := WorkerCall.perform_withFaults stores call w
      · rw [hbase]
        exact ⟨hw, rfl⟩
      · rw [hbase]
        exact h.workers.perform call w.base hw
    close := fun w hw => by
      show b.IsUndisturbed _ ∧ b.contents? _ = _
      obtain ⟨-, -, hbase⟩ | ⟨-, hbase⟩ :=
        Faulty.guarded_cases .closeWorkers "" stores.workers.close w
      · rw [show (stores.withFaults.workers.close w).2.base = w.base from hbase]
        exact ⟨hw, rfl⟩
      · rw [show (stores.withFaults.workers.close w).2.base = _ from hbase]
        exact h.workers.close w.base hw }
  close w hw := by
    show b.IsUndisturbed _ ∧ b.contents? _ = _
    obtain ⟨-, -, hbase⟩ | ⟨-, hbase⟩ := Faulty.guarded_cases .closeTasks "" stores.tasks.close w
    · rw [show (stores.withFaults.tasks.close w).2.base = w.base from hbase]
      exact ⟨hw, rfl⟩
    · rw [show (stores.withFaults.tasks.close w).2.base = _ from hbase]
      exact h.close w.base hw

/-- Where a configuration keeps the tasks. -/
def Config.tasks (c : Config) : TaskBackend :=
  match c.taskStore.backend with
  | .redis => .redis ⟨c.redis.connection⟩
  | .memory => .memory

/-- The store of the tasks is the one where the configuration keeps them. -/
lemma Site.tasks_stores (c : Config) : (Site.stores c).tasks = c.tasks.store := by
  unfold Site.stores Config.tasks
  cases c.taskStore.backend <;> rfl

/-- **The stores of every configuration keep the tasks**, in memory or in Redis, with the workers in
memory or in Redis. -/
theorem Site.keepTasks (c : Config) : (Site.stores c).KeepTasks c.tasks.view := by
  refine TaskBackend.keepTasks (Site.tasks_stores c) ?_ rfl
  show WorkerStore.Observes (match c.workerStore.backend with
    | .redis => Site.redisWorkers ⟨c.redis.connection, c.redis.workerTtl⟩
    | .memory => Site.memoryWorkers c.redis.workerTtl) _
  cases c.workerStore.backend with
  | redis =>
    refine TaskBackend.observes_redisWorkers fun t ht => ?_
    unfold Config.tasks at ht
    cases hbackend : c.taskStore.backend with
    | redis =>
      rw [hbackend] at ht
      rw [← TaskBackend.redis.inj ht]
    | memory =>
      rw [hbackend] at ht
      exact absurd ht (by simp)
  | memory => exact TaskBackend.observes_memoryWorkers _

end ConversionScheduler
