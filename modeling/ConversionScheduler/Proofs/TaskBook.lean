import ConversionScheduler.Proofs.TaskContents
/-!
# The two stores of tasks agree

What the store of the tasks promises, whatever it lives in: a map from ids to tasks. The time of
creation is that of the task that was added; everything else is what was written last. Both stores,
started empty, answer every series of calls as this map does, and so they give the same answers. In
Redis the free-form data has to be within the limits of what can be read again.

## Main definitions

* `Task.asRead` — a task as it is read again.
* `TaskBook`, `TaskBook.respond` — tasks by id, and what a call answers and changes.
* `TaskStore.replay` — the answers of a store to a series of calls.
* `TaskBackend.Spares` — what others may do between two calls; time may pass.

## Main results

* `TaskContents.respond_of_shows` — contents that show a book answer as the book does.
* `TaskBook.createdAt_after`, `TaskBook.after_filter` — which calls the tasks in a book depend on.
* `TaskBackend.replay_eq` — a store of either kind answers a series of calls as the book does.
* `task_stores_agree` — the same answers in memory and in Redis, which are those of the book.
-/

namespace ConversionScheduler

/-- A task as it is read again: an assignment counts only if neither of its ids is empty. -/
def Task.asRead (t : Task) : Task :=
  { t with assignment := t.assignment.filter fun a => a.workerId ≠ "" ∧ a.remoteId ≠ "" }

/-- A task is read back from its record as `asRead` has it, whenever it was created. -/
lemma Task.ofRecord_toRecord_eq (t : Task) (now created : Timestamp) :
    ofRecord { t.toRecord now with createdAt := created } =
      { t.asRead with createdAt := created } := by
  simp only [ofRecord, toRecord, asRead]
  cases t.assignment with
  | none => rfl
  | some a =>
    simp only [Option.map_some, assignmentOf, Option.filter_some]
    split <;> simp_all

/-! ## Tasks by id -/

/-- The tasks as they are read, by id. -/
abbrev TaskBook := String → Option Task

namespace TaskBook

variable (book : TaskBook)

/-- The book without tasks. -/
def empty : TaskBook := fun _ => none

/-- What a call answers, and the tasks after it. -/
def respond : TaskCall → Except Failure TaskAnswer × TaskBook
  | .add t => (.ok .nothing, Function.update book t.id (some t.asRead))
  | .get id =>
    match book id with
    | some t => (.ok (.task t), book)
    | none => (.error (.reported (.taskNotFound id)), book)
  | .update t =>
    match book t.id with
    | some old =>
      (.ok .nothing, Function.update book t.id (some { t.asRead with createdAt := old.createdAt }))
    | none => (.error (.reported (.taskNotFound t.id)), book)
  | .remove id => (.ok .nothing, Function.update book id none)

/-- The answers to a series of calls. -/
def answers : TaskBook → List TaskCall → List (Except Failure TaskAnswer)
  | _, [] => []
  | book, call :: calls => (book.respond call).1 :: answers (book.respond call).2 calls

/-- The tasks after a series of calls. -/
def after : TaskBook → List TaskCall → TaskBook
  | book, [] => book
  | book, call :: calls => after (book.respond call).2 calls

variable {book}

/-- A call leaves what is under the other ids. -/
lemma respond_of_ne {call : TaskCall} {id : String} (h : id ≠ call.subject) :
    (book.respond call).2 id = book id := by
  cases call with
  | add t => exact Function.update_of_ne h _ _
  | remove id' => exact Function.update_of_ne h _ _
  | get id' =>
    simp only [respond]
    split <;> rfl
  | update t =>
    simp only [respond]
    split
    · exact Function.update_of_ne h _ _
    · rfl

/-- What becomes of the task under the id of a call depends on nothing else. -/
lemma respond_congr {book' : TaskBook} {call : TaskCall}
    (h : book call.subject = book' call.subject) :
    (book.respond call).2 call.subject = (book'.respond call).2 call.subject := by
  cases call with
  | add t => simp [respond, TaskCall.subject]
  | remove id => simp [respond, TaskCall.subject]
  | get id =>
    have h : book id = book' id := h
    simp only [respond, TaskCall.subject, h]
    split <;> exact h
  | update t =>
    have h : book t.id = book' t.id := h
    simp only [respond, TaskCall.subject, h]
    split
    · simp
    · exact h

/-- **The task under an id depends only on the calls about this id.** -/
theorem after_filter {book' : TaskBook} (calls : List TaskCall) {id : String}
    (h : book id = book' id) :
    book.after calls id = book'.after (calls.filter (·.subject = id)) id := by
  induction calls generalizing book book' with
  | nil => exact h
  | cons call calls ih =>
    rw [after, List.filter_cons]
    by_cases hid : call.subject = id
    · subst hid
      rw [if_pos (decide_eq_true rfl), after]
      exact ih (respond_congr h)
    · rw [if_neg (by simpa using hid)]
      exact ih ((respond_of_ne (Ne.symm hid)).trans h)

/-- The task that a call adds under an id. -/
def added? (id : String) : TaskCall → Option Task
  | .add t => if t.id = id then some t else none
  | .get _ | .update _ | .remove _ => none

/-- The last task that was added under an id. -/
def lastAdded? (id : String) : List TaskCall → Option Task
  | [] => none
  | call :: calls => (lastAdded? id calls).or (added? id call)

/-- A task has the time of creation of the one that was added, or of the one that was there.

**Proof sketch.** An id that the call is not about keeps its task. For the one it is about: an
addition brings a time of creation, an update takes over the old one, a reading leaves the task, and
after a removal there is none. -/
lemma createdAt_respond {call : TaskCall} {id : String} {t : Task}
    (h : (book.respond call).2 id = some t) :
    ((added? id call).or (book id)).map (·.createdAt) = some t.createdAt := by
  by_cases hid : id = call.subject
  · subst hid
    cases call with
    | add t' =>
      obtain rfl : t'.asRead = t := by simpa [respond, TaskCall.subject] using h
      simp [added?, TaskCall.subject, Task.asRead]
    | remove id => simp [respond, TaskCall.subject] at h
    | get id =>
      simp only [respond, TaskCall.subject] at h
      split at h <;> exact congrArg (Option.map _) h
    | update t' =>
      simp only [respond, TaskCall.subject] at h
      split at h
      · rename_i old hold
        obtain rfl : { t'.asRead with createdAt := old.createdAt } = t := by simpa using h
        simp [added?, TaskCall.subject, hold]
      · exact congrArg (Option.map _) h
  · rw [respond_of_ne hid] at h
    have hadded : added? id call = none := by
      cases call with
      | add t' => exact if_neg fun heq => hid heq.symm
      | _ => rfl
    rw [hadded, h]
    rfl

/-- **The time of creation stays that of the task that was added last.** -/
theorem createdAt_after {calls : List TaskCall} {id : String} {t : Task}
    (h : book.after calls id = some t) :
    ((lastAdded? id calls).or (book id)).map (·.createdAt) = some t.createdAt := by
  induction calls generalizing book with
  | nil => exact congrArg (Option.map _) h
  | cons call calls ih =>
    have hlater := ih h
    rw [lastAdded?]
    cases hlast : lastAdded? id calls with
    | some t' =>
      rw [hlast] at hlater
      exact hlater
    | none =>
      rw [hlast, Option.none_or] at hlater
      obtain ⟨t', ht', hcreated⟩ := Option.map_eq_some_iff.mp hlater
      rw [Option.none_or, createdAt_respond ht', hcreated]

end TaskBook

/-! ## Contents that show a book -/

namespace TaskContents

variable {m : TaskContents} {book : TaskBook} {entry : TaskRecord → TaskEntry}

/-- Whether the tasks in a book are what is read. -/
def Shows (m : TaskContents) (book : TaskBook) : Prop :=
  ∀ id, (m.load id).map Task.ofRecord =
    match book id with
    | some t => .ok t
    | none => .error (.taskNotFound id)

/-- Empty contents show the empty book. -/
lemma shows_empty : Shows (fun _ => none) TaskBook.empty := fun _ => rfl

/-- A task in the book has a record, from which it is read. -/
lemma Shows.of_some (h : m.Shows book) {id : String} {t : Task} (ht : book id = some t) :
    ∃ r, m.load id = .ok r ∧ Task.ofRecord r = t := by
  have hid := h id
  rw [ht] at hid
  cases hload : m.load id with
  | error e =>
    rw [hload] at hid
    exact absurd hid (by simp [Except.map])
  | ok r =>
    rw [hload] at hid
    exact ⟨r, rfl, Except.ok.inj hid⟩

/-- A task that is not in the book is reported as not found. -/
lemma Shows.of_none (h : m.Shows book) {id : String} (ht : book id = none) :
    m.load id = .error (.taskNotFound id) := by
  have hid := h id
  rw [ht] at hid
  cases hload : m.load id with
  | error e =>
    rw [hload] at hid
    exact congrArg Except.error (Except.error.inj hid)
  | ok r =>
    rw [hload] at hid
    exact absurd hid (by simp [Except.map])

/-- Writing a record that can be read back enters its task into the book. -/
lemma Shows.write (h : m.Shows book) {r : TaskRecord} (hr : (entry r).record? r.id = .ok r) :
    Shows (Function.update m r.id (some (entry r)))
      (Function.update book r.id (some (.ofRecord r))) := by
  intro id
  unfold load
  by_cases hid : id = r.id
  · subst hid
    simp only [Function.update_self, hr]
    rfl
  · rw [Function.update_of_ne hid, Function.update_of_ne hid]
    exact h id

/-- Emptying an entry takes the task from the book. -/
lemma Shows.remove (h : m.Shows book) (id : String) :
    Shows (Function.update m id none) (Function.update book id none) := by
  intro id'
  unfold load
  by_cases hid : id' = id
  · subst hid
    simp only [Function.update_self]
    rfl
  · rw [Function.update_of_ne hid, Function.update_of_ne hid]
    exact h id'

/-- **Contents that show a book answer as the book does, and go on showing it**, if what is kept of
a written record is read again.

**Proof sketch.** Cases on the call. A reading and an update find a record just if the book has a
task; a record written is read as the task was, up to the time of creation, which an update takes
from the record before it. -/
theorem respond_of_shows (h : m.Shows book) (now : Timestamp) (call : TaskCall)
    (hentry : ∀ t created, (call = .add t ∨ call = .update t) →
      (entry { t.toRecord now with createdAt := created }).record? t.id =
        .ok { t.toRecord now with createdAt := created }) :
    (m.respond entry now call).1 = (book.respond call).1 ∧
      (m.respond entry now call).2.Shows (book.respond call).2 := by
  cases call with
  | add t =>
    have hwrite := h.write (r := t.toRecord now) (hentry t t.createdAt (.inl rfl))
    refine ⟨rfl, ?_⟩
    have hread : Task.ofRecord (t.toRecord now) = t.asRead :=
      t.ofRecord_toRecord_eq now t.createdAt
    rw [hread] at hwrite
    exact hwrite
  | get id =>
    cases ht : book id with
    | none =>
      simp only [respond, TaskBook.respond, ht, h.of_none ht]
      exact ⟨trivial, h⟩
    | some t =>
      obtain ⟨r, hload, rfl⟩ := h.of_some ht
      simp only [respond, TaskBook.respond, ht, hload]
      exact ⟨trivial, h⟩
  | update t =>
    cases ht : book t.id with
    | none =>
      simp only [respond, TaskBook.respond, ht, h.of_none ht]
      exact ⟨trivial, h⟩
    | some old =>
      obtain ⟨r, hload, rfl⟩ := h.of_some ht
      simp only [respond, TaskBook.respond, ht, hload]
      have hwrite := h.write (r := { t.toRecord now with createdAt := r.createdAt })
        (hentry t r.createdAt (.inr rfl))
      rw [t.ofRecord_toRecord_eq] at hwrite
      exact ⟨trivial, hwrite⟩
  | remove id => exact ⟨rfl, h.remove id⟩

end TaskContents

/-! ## Series of calls -/

/-- The answers of a store to a series of calls. Before each of them others change the world. -/
def TaskStore.replay {ω : Type} (store : TaskStore ω) :
    List ((ω → ω) × TaskCall) → ω → List (Except Failure TaskAnswer)
  | [], _ => []
  | (meanwhile, call) :: steps, w =>
    (call.perform store (meanwhile w)).1 ::
      store.replay steps (call.perform store (meanwhile w)).2

/-- Whether the free-form data that a call writes can be read again from a text, in which it is one
level down. -/
def TaskCall.isReadable : TaskCall → Bool
  | add t | update t => t.userDef.isReadable 126
  | get _ | remove _ => true

namespace TaskBackend

variable {b : TaskBackend} {s : Site}

/-- Whether others leave the tasks and the way to them alone. -/
def Spares (b : TaskBackend) (meanwhile : Site → Site) : Prop :=
  ∀ s, b.IsUndisturbed s → b.IsLasting s → b.IsUndisturbed (meanwhile s) ∧
    b.IsLasting (meanwhile s) ∧ b.contents? (meanwhile s) = b.contents? s

/-- The passing of time leaves the tasks alone. -/
lemma spares_elapse (b : TaskBackend) (d : Duration) (wall : Timestamp) :
    b.Spares fun s => { s with
      clock := ⟨wall, ⟨s.clock.uptime.nanos + d.nanos⟩⟩
      line := { s.line with server := s.line.server.advance d } } := by
  intro s hs hlasting
  cases b with
  | memory => exact ⟨trivial, trivial, rfl⟩
  | redis t =>
    have hentry :
        Redis.Server.entry? (s.line.server.advance d) t.hashKey = s.line.server.entry? t.hashKey :=
      Redis.Server.IsLasting.entry?_later s.line.server hlasting (Nat.le_add_right _ _)
    refine ⟨hs, ?_, ?_⟩
    · show (Redis.Server.entry? (s.line.server.advance d) t.hashKey).bind (·.deadline) = none
      rw [hentry]
      exact hlasting
    · have hfields : (s.line.server.advance d).fields? t.hashKey =
          s.line.server.fields? t.hashKey := by
        rw [Redis.Server.fields?, Redis.Server.fields?, Redis.Server.datum?, Redis.Server.datum?,
          hentry]
      exact congrArg (Option.map _) hfields

/-- A record whose free-form data is not nested too deeply for the reader is read back from its
entry. -/
lemma record?_entry {r : TaskRecord} (h : r.userDef.isReadable 126 = true) :
    (b.entry r).record? r.id = .ok r := by
  have htext := RedisTasks.record?_render h
  cases b with
  | memory => rfl
  | redis _ => exact htext

/-- **A store of either kind answers a series of calls as the book does.**

**Proof sketch.** Induction on the steps. What happens in between leaves the contents alone; the
call is answered by the contents, which show the book, and go on showing it for the rest. -/
theorem replay_eq {m : TaskContents} {book : TaskBook} (hs : b.IsUndisturbed s)
    (hlasting : b.IsLasting s) (hm : b.contents? s = some m) (hbook : m.Shows book)
    {steps : List ((Site → Site) × TaskCall)}
    (hsteps : ∀ step ∈ steps, b.Spares step.1 ∧ step.2.isReadable = true) :
    b.store.replay steps s = book.answers (steps.map (·.2)) := by
  induction steps generalizing s m book with
  | nil => rfl
  | cons step steps ih =>
    obtain ⟨meanwhile, call⟩ := step
    obtain ⟨hspares, hreadable⟩ := hsteps _ (List.mem_cons_self ..)
    obtain ⟨hs', hlasting', hm'⟩ := hspares s hs hlasting
    rw [hm] at hm'
    obtain ⟨s'', hperform, hm'', hs'', hlasting''⟩ := perform_eq hs' hm' call
    -- only readable data is written, so it is read as it was
    have hentry : ∀ t created, (call = .add t ∨ call = .update t) →
        (b.entry { t.toRecord (meanwhile s).now with createdAt := created }).record? t.id =
          .ok { t.toRecord (meanwhile s).now with createdAt := created } := by
      intro t created hcall
      have hdata : t.userDef.isReadable 126 = true := by
        obtain rfl | rfl := hcall <;> exact hreadable
      exact record?_entry (r := { t.toRecord (meanwhile s).now with createdAt := created }) hdata
    obtain ⟨hanswer, hbook'⟩ :=
      TaskContents.respond_of_shows hbook (meanwhile s).now call hentry
    have hrest := ih hs'' (hlasting'' hlasting') hm'' hbook'
      fun step hstep => hsteps step (List.mem_cons_of_mem _ hstep)
    rw [TaskStore.replay, hperform, hrest, hanswer]
    rfl

end TaskBackend

/-! ## Both kinds -/

/-- **The tasks in memory and the tasks in Redis give the same answers to any calls, and they are
those of the book**, if the stores are started empty, nobody else touches their tasks, and in Redis
the data can be read again. In the book a task depends only on the calls about its id, and its time
of creation is that of the task that was added last under this id.

**Proof sketch.** What each of the stores holds shows the book at all times: a call about an id that
is not there changes nothing in any of the three, and the record that is written is read again. -/
theorem task_stores_agree (t : RedisTasks) {s s' : Site} (hs : s.tasks = .empty)
    (hline : s'.line.IsPlain) (hserver : s'.line.server.entries.get? t.hashKey = none)
    {calls : List TaskCall} (hcalls : ∀ call ∈ calls, call.isReadable = true)
    {steps steps' : List ((Site → Site) × TaskCall)} (hsteps : steps.map (·.2) = calls)
    (hsteps' : steps'.map (·.2) = calls)
    (hspared : ∀ step ∈ steps, TaskBackend.memory.Spares step.1)
    (hspared' : ∀ step ∈ steps', (TaskBackend.redis t).Spares step.1) :
    Site.memoryTasks.replay steps s = (Site.redisTasks t).replay steps' s' ∧
      Site.memoryTasks.replay steps s = TaskBook.empty.answers calls ∧
      ∀ id, TaskBook.empty.after calls id =
          TaskBook.empty.after (calls.filter (·.subject = id)) id ∧
        ∀ task, TaskBook.empty.after calls id = some task →
          (TaskBook.lastAdded? id calls).map (·.createdAt) = some task.createdAt := by
  have hmemory : Site.memoryTasks.replay steps s = TaskBook.empty.answers (steps.map (·.2)) := by
    refine TaskBackend.replay_eq (b := .memory) trivial trivial rfl ?_ fun step hstep =>
      ⟨hspared step hstep, hcalls _ (hsteps ▸ List.mem_map_of_mem hstep)⟩
    rw [hs]
    exact TaskContents.shows_empty
  have hredis : (Site.redisTasks t).replay steps' s' =
      TaskBook.empty.answers (steps'.map (·.2)) := by
    have hentry : s'.line.server.entry? t.hashKey = none := by
      rw [Redis.Server.entry?, hserver]
      rfl
    have hfields : s'.line.server.fields? t.hashKey = some [] := by
      rw [Redis.Server.fields?, Redis.Server.datum?, hentry]
      rfl
    have hlasting : s'.line.server.IsLasting t.hashKey := by
      rw [Redis.Server.IsLasting, hentry]
      rfl
    exact TaskBackend.replay_eq (b := .redis t) hline hlasting (congrArg (Option.map _) hfields)
      TaskContents.shows_empty fun step hstep =>
        ⟨hspared' step hstep, hcalls _ (hsteps' ▸ List.mem_map_of_mem hstep)⟩
  rw [hsteps] at hmemory
  rw [hsteps'] at hredis
  refine ⟨hmemory.trans hredis.symm, hmemory, fun id => ⟨TaskBook.after_filter calls rfl, ?_⟩⟩
  intro task htask
  have hcreated := TaskBook.createdAt_after htask
  rwa [TaskBook.empty, Option.or_none] at hcreated

/-- A task that is assigned by an update keeps its time of creation, and one that was removed is not
there to be updated. A second passes before each call. -/
theorem task_stores_agree_lifecycle :
    let early : Timestamp := ⟨5, 0, by decide, by decide, by decide⟩
    let late : Timestamp := ⟨9, 0, by decide, by decide, by decide⟩
    let t := Task.create "a" "pdf" "pdf2csv" .low (.object [("pages", .nat 3)]) early
    let assigned := { t with createdAt := late, assignment := some ⟨"w", "r"⟩ }
    let calls : List TaskCall := [.add t, .update assigned, .get "a", .remove "a", .update assigned]
    let s : Site := ⟨⟨late, ⟨0⟩⟩, .empty, .empty, {}⟩
    let elapse : Site → Site := fun s => { s with
      clock := ⟨late, ⟨s.clock.uptime.nanos + 1000000000⟩⟩
      line := { s.line with server := s.line.server.advance ⟨1000000000⟩ } }
    let steps := calls.map (elapse, ·)
    let answers : List (Except Failure TaskAnswer) := [.ok .nothing, .ok .nothing,
      .ok (.task { assigned with createdAt := early }), .ok .nothing,
      .error (.reported (.taskNotFound "a"))]
    Site.memoryTasks.replay steps s = answers ∧
      (Site.redisTasks ⟨⟨"cs", .ofSeconds 5⟩⟩).replay steps s = answers := by
  intro early late t assigned calls s elapse steps answers
  have hcalls : ∀ call ∈ calls, call.isReadable = true := by decide
  have hspared : ∀ b : TaskBackend, ∀ step ∈ steps, b.Spares step.1 := by
    intro b step hstep
    obtain ⟨call, -, rfl⟩ := List.mem_map.mp hstep
    exact b.spares_elapse ⟨1000000000⟩ late
  obtain ⟨hagree, hbook, -⟩ := task_stores_agree ⟨⟨"cs", .ofSeconds 5⟩⟩ (s := s) rfl
    (show s.line.IsPlain from ⟨rfl, rfl⟩) rfl hcalls rfl rfl (hspared _) (hspared _)
  have hanswers : TaskBook.empty.answers calls = answers := rfl
  rw [hanswers] at hbook
  exact ⟨hbook, hagree.symm.trans hbook⟩

end ConversionScheduler
