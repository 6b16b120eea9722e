import ConversionScheduler.Error
import ConversionScheduler.Task.State
import ConversionScheduler.Time.Rfc3339
/-!
# Tasks

A conversion task, and the record in which a store keeps it. A task is assigned once: to a worker,
under the id that the worker gave it. In a record the two ids are separate fields; a record that
lacks one of them, or has an empty one, is read as a task that is not assigned.

## Main definitions

* `Task`, `Assignment`, `Task.assign` — tasks and their assignment.
* `TaskRecord`, `Task.toRecord`, `Task.ofRecord` — the stored form.
* `TaskRecord.toJson`, `TaskRecord.read?` — the record as JSON.
* `TaskReport` — what is known about a task, from its record or from its worker.

## Main results

* `Task.ofRecord_toRecord` — a task whose assignment has two non-empty ids survives its record.
-/

namespace ConversionScheduler

/-- The worker of a task, and the id that the worker knows it by. -/
structure Assignment where
  workerId : String
  remoteId : String
deriving DecidableEq

/-- A conversion task. -/
structure Task where
  id : String
  taskType : String
  subType : String
  state : TaskState
  priority : Priority
  createdAt : Timestamp
  /-- Free-form data of the client, passed on to the worker. -/
  userDef : Json.Value
  assignment : Option Assignment
deriving DecidableEq

/-- A task as a store keeps it. -/
structure TaskRecord where
  id : String
  state : TaskState
  taskType : String
  subType : String
  priority : Priority
  workerId : Option String
  workerTaskId : Option String
  createdAt : Timestamp
  updatedAt : Timestamp
  userDef : Json.Value
deriving DecidableEq

namespace Task

/-- A new task, neither started nor assigned. -/
def create (id taskType subType : String) (priority : Priority) (userDef : Json.Value)
    (now : Timestamp) : Task :=
  ⟨id, taskType, subType, .pending, priority, now, userDef, none⟩

/-- Whether the task has a worker. -/
def isAssigned (t : Task) : Bool := t.assignment.isSome

/-- Whether the task has ended. -/
def isDone (t : Task) : Bool := t.state.isTerminal

/-- Whether the task could be cancelled, which is not supported yet. -/
def cancel (_ : Task) : Bool := false

/-- Assigns the task, unless it is assigned already. -/
def assign (t : Task) (workerId remoteId : String) : Except Error Task :=
  match t.assignment with
  | some a => .error (.internal (.alreadyAssigned t.id a.workerId))
  | none => .ok { t with assignment := some ⟨workerId, remoteId⟩ }

/-- The assignment in a record: two ids, neither of them empty. -/
def assignmentOf : Option String → Option String → Option Assignment
  | some w, some r => if w ≠ "" ∧ r ≠ "" then some ⟨w, r⟩ else none
  | _, _ => none

/-- The task in a record. -/
def ofRecord (r : TaskRecord) : Task :=
  ⟨r.id, r.taskType, r.subType, r.state, r.priority, r.createdAt, r.userDef,
    assignmentOf r.workerId r.workerTaskId⟩

/-- The record of a task, written at a given time. -/
def toRecord (t : Task) (now : Timestamp) : TaskRecord :=
  ⟨t.id, t.state, t.taskType, t.subType, t.priority, t.assignment.map (·.workerId),
    t.assignment.map (·.remoteId), t.createdAt, now, t.userDef⟩

/-- A task without an assignment, or with two non-empty ids, survives its record. -/
theorem ofRecord_toRecord (t : Task) (now : Timestamp)
    (h : ∀ a, t.assignment = some a → a.workerId ≠ "" ∧ a.remoteId ≠ "") :
    ofRecord (t.toRecord now) = t := by
  obtain ⟨id, ty, sub, st, pr, c, u, a⟩ := t
  cases a with
  | none => rfl
  | some a => simp [ofRecord, toRecord, assignmentOf, h a rfl]

end Task

namespace TaskRecord

/-- The JSON object of a record. -/
def toJson (r : TaskRecord) : Json.Value :=
  .object [("id", .string r.id), ("task_state", .string r.state.word),
    ("type", .string r.taskType), ("sub_type", .string r.subType),
    ("priority", .string r.priority.word), ("worker_id", .optional r.workerId),
    ("worker_task_id", .optional r.workerTaskId), ("created_at", .string r.createdAt.text),
    ("updated_at", .string r.updatedAt.text), ("user_def", r.userDef)]

/-- A point in time, written as text. -/
def time? (c : Json.Cursor) : Option Timestamp := c.text?.bind Timestamp.ofString?

/-- Reads a record. Its id, priority, assignment and free-form data may be missing. -/
def read? (c : Json.Cursor) : Option TaskRecord := do
  let fs ← Json.dialect.fields? [["id"], ["task_state"], ["type"], ["sub_type"], ["priority"],
    ["worker_id"], ["worker_task_id"], ["created_at"], ["updated_at"], ["user_def"]] c
  return {
    id := ← fs.defaulted "id" "" Json.Cursor.text?
    state := ← fs.required "task_state" (TaskState.read? Json.dialect)
    taskType := ← fs.required "type" Json.Cursor.text?
    subType := ← fs.required "sub_type" Json.Cursor.text?
    priority := ← fs.defaulted "priority" .low (Priority.read? Json.dialect)
    workerId := ← fs.defaulted "worker_id" none (Json.Cursor.nullable? Json.Cursor.text?)
    workerTaskId := ← fs.defaulted "worker_task_id" none (Json.Cursor.nullable? Json.Cursor.text?)
    createdAt := ← fs.required "created_at" time?
    updatedAt := ← fs.required "updated_at" time?
    userDef := ← fs.defaulted "user_def" .null Json.Cursor.value? }

end TaskRecord

/-! ## Reports -/

/-- What a worker says about a task. -/
structure WorkerReport where
  taskId : String
  state : TaskState
  data : Json.Value
deriving DecidableEq

namespace WorkerReport

/-- The JSON object of a worker's report. -/
def toJson (r : WorkerReport) : Json.Value :=
  .object [("task_id", .string r.taskId), ("task_status", .string r.state.word), ("data", r.data)]

/-- Reads a worker's report. Its data may be missing. -/
def read? (c : Json.Cursor) : Option WorkerReport := do
  let fs ← Json.dialect.fields? [["task_id"], ["task_status"], ["data"]] c
  return {
    taskId := ← fs.required "task_id" Json.Cursor.text?
    state := ← fs.required "task_status" (TaskState.read? Json.dialect)
    data := ← fs.defaulted "data" .null Json.Cursor.value? }

end WorkerReport

/-- What a client is told about a task. -/
structure TaskReport where
  taskId : String
  state : TaskState
  taskType : String
  subType : String
  data : Json.Value
deriving DecidableEq

namespace TaskReport

/-- What is known about a task without asking its worker. -/
def ofTask (t : Task) : TaskReport := ⟨t.id, t.state, t.taskType, t.subType, .null⟩

/-- The state and data that a worker reports, under the task's own id and kind. -/
def ofWorker (t : Task) (r : WorkerReport) : TaskReport :=
  ⟨t.id, r.state, t.taskType, t.subType, r.data⟩

/-- The JSON object of a report. -/
def toJson (r : TaskReport) : Json.Value :=
  .object [("task_id", .string r.taskId), ("state", .string r.state.word),
    ("task_type", .string r.taskType), ("sub_type", .string r.subType), ("data", r.data)]

/-- Reads a report. -/
def read? (c : Json.Cursor) : Option TaskReport := do
  let fs ← Json.dialect.fields? [["task_id"], ["state"], ["task_type"], ["sub_type"], ["data"]] c
  return {
    taskId := ← fs.required "task_id" Json.Cursor.text?
    state := ← fs.required "state" (TaskState.read? Json.dialect)
    taskType := ← fs.required "task_type" Json.Cursor.text?
    subType := ← fs.required "sub_type" Json.Cursor.text?
    data := ← fs.required "data" Json.Cursor.value? }

end TaskReport

end ConversionScheduler
