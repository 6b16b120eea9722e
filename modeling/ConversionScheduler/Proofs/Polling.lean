import ConversionScheduler.Proofs.Assignments
import ConversionScheduler.Proofs.TaskCustody
/-!
# Asking for the status of a task

Whoever asks for a task is told what its record says, or, once it is assigned, what its worker says.
The record is removed in one case only: when the worker reports that the task has ended. The state
in the record itself does not count for this: a task that nobody took and whose record says that it
has ended is reported as ended, each time again, and its record stays.

## Main definitions

* `Http.Request.report?` — what a worker says about a task, in an answer to a request.
* `TaskView.Reads` — a record is to be read under an id.
* `Scheduler.Asks` — the worker of a task is being asked, with which request and for which record.
* `Scheduler.Polls`, `Scheduler.Concludes` — how asking for the status goes on, and how it ends.

## Main results

* `Manager.State.call_of_request` — a request to a worker, and what follows its outcome.
* `Scheduler.remoteStatus_cases` — asking a worker about a task.
* `Scheduler.polls_status` — asking for the status of a task, over stores that keep the tasks.
* `status_removes_iff` — the same for the stores of a configuration, whose calls may fail.
-/

namespace ConversionScheduler

open Manager (State)
open Manager.State (query call note count)

/-- What a worker says about a task, in an answer to a request. -/
def Http.Request.report? (r : Http.Request) (o : Http.Outcome) : Except CallFault WorkerReport :=
  Proxy.decoded WorkerReport.read? (Proxy.answer r.url o)

/-- Whether a record is to be read under an id. -/
def TaskView.Reads {ω : Type} (v : TaskView ω) (w : ω) (id : String) (r : TaskRecord) : Prop :=
  ∃ m, v.contents? w = some m ∧ m.load id = .ok r

/-! ## Requests to workers -/

namespace Manager.State

variable {ω α : Type} {s : State ω} {c : Proxy → Call α} {n : Nat}

/-- A call with a request waits for its outcome, and then it is over. -/
lemma call_of_request {r : Http.Request} (h : (c (s.pool.proxy n)).request = .ok r) :
    call n c s = .waiting r s fun o u =>
      .finished (((c (s.pool.proxy n)).settle r o (u.pool.proxy n)).1.mapError .reported)
        { u with pool := u.pool.change n fun _ =>
          ((c (s.pool.proxy n)).settle r o (u.pool.proxy n)).2 } := by
  unfold call Call.run
  rw [h]
  rfl

/-- A call without a request is over at once. -/
lemma call_of_fault {fault : TransportFault} (h : (c (s.pool.proxy n)).request = .error fault) :
    call n c s =
      .finished (((c (s.pool.proxy n)).settleUnsent fault (s.pool.proxy n)).1.mapError .reported)
        { s with pool := s.pool.change n fun _ =>
          ((c (s.pool.proxy n)).settleUnsent fault (s.pool.proxy n)).2 } := by
  unfold call Call.run
  rw [h]
  rfl

end Manager.State

/-- Looking for a worker fails, or brings the number of a proxy at the address in its record. -/
lemma getWorker_cases {ω : Type} (m : Manager ω) (id : String) (s : State ω) :
    (∃ e s', m.getWorker id s = .finished (.error e) s' ∧
        s'.world = (m.workers.get id s.world).2) ∨
      ∃ r n u, m.workers.get id s.world = (.ok r, u.world) ∧
        m.getWorker id s = .finished (.ok n) u ∧ (u.pool.proxy n).addr = r.addr := by
  show (∃ e s', (query (m.workers.get id) >>= _) s = _ ∧ _) ∨
    ∃ r n u, _ ∧ (query (m.workers.get id) >>= _) s = _ ∧ _
  rcases hget : m.workers.get id s.world with ⟨e | r, w⟩
  · exact .inl ⟨e, _, Manager.State.query_bind_error hget _, rfl⟩
  · rw [Manager.State.query_bind_ok hget]
    exact .inr ⟨r, _, { s with world := w, pool := (s.pool.resolve r).2 }, rfl, rfl,
      Pool.addr_resolve s.pool r⟩

/-- A worker is asked about a task at the address in its record. -/
lemma request_taskStatus {p : Proxy} {r : WorkerRecord} (h : p.addr = r.addr) (remoteId : String) :
    (p.taskStatus remoteId).request =
      (Proxy.ofRecord r).request .get ["task", remoteId] none :=
  Proxy.request_congr h ..

namespace Scheduler

variable {ω : Type} {c : Scheduler ω} {v : TaskView ω} {s : State ω} {id : String}

/-- **Asking a worker about a task** fails at once, or waits for the outcome of one request, which
goes to the address in the worker's record. The world changes only by the reading of the record.

**Proof sketch.** The record of the worker is read, and it is not there, or its proxy is put
together. The request to it cannot be written, and the call fails at once, or it is sent; the
outcome is then decoded, and nothing but a note is taken of the report. -/
theorem remoteStatus_cases (c : Scheduler ω) (a : Assignment) (s : State ω) :
    (∃ e s', c.remoteStatus a.remoteId a.workerId s = .finished (.error e) s' ∧
        s'.world = (c.stores.workers.get a.workerId s.world).2) ∨
      ∃ r request u resume, c.stores.workers.get a.workerId s.world = (.ok r, u.world) ∧
        (Proxy.ofRecord r).request .get ["task", a.remoteId] none = .ok request ∧
        c.remoteStatus a.remoteId a.workerId s = .waiting request u resume ∧
        ∃ fail : CallFault → Failure, ∀ o u', ∃ s', s'.world = u'.world ∧
          resume o u' = .finished ((request.report? o).mapError fail) s' := by
  obtain ⟨e, s', hworker, hworld⟩ | ⟨r, n, u, hget, hworker, haddr⟩ :=
    getWorker_cases c.manager a.workerId s
  · refine .inl ⟨e, s', ?_, hworld⟩
    rw [remoteStatus, Operation.bind_apply, hworker]
    rfl
  have hrun : c.remoteStatus a.remoteId a.workerId s =
      ((call n fun p => p.taskStatus a.remoteId) >>= fun report =>
        note (fun s => .reported (s.pool.contact n) a.remoteId) >>= fun _ => pure report) u := by
    rw [remoteStatus, Operation.bind_apply, hworker]
    rfl
  have hrequest := request_taskStatus haddr a.remoteId
  rw [hrun, Operation.bind_apply]
  cases hsent : (Proxy.ofRecord r).request .get ["task", a.remoteId] none with
  | error fault =>
    rw [Manager.State.call_of_fault (hrequest.trans hsent)]
    exact .inl ⟨_, _, rfl, congrArg Prod.snd hget.symm⟩
  | ok request =>
    rw [Manager.State.call_of_request (hrequest.trans hsent)]
    refine .inr ⟨r, request, u, _, hget, hsent, rfl,
      fun fault => .reported (.statusCheckFailure ⟨(u.pool.proxy n).id, fault⟩), fun o u' => ?_⟩
    simp only [Http.Request.report?, Call.settle, Proxy.taskStatus]
    cases Proxy.decoded WorkerReport.read? (Proxy.answer request.url o) with
    | error fault => exact ⟨_, by rfl, rfl⟩
    | ok report => exact ⟨_, by rfl, rfl⟩

/-! ## Asking for the status -/

/-- The worker of a task is being asked: a record was read under `id` in the world `w`, it names
the worker, and the request goes to the address in the record of that worker. Nothing was written so
far. -/
structure Asks (c : Scheduler ω) (v : TaskView ω) (id : String) (w : ω) (r : TaskRecord)
    (a : Assignment) (request : Http.Request) (w' : ω) : Prop where
  read : v.Reads w id r
  assigned : (Task.ofRecord r).assignment = some a
  addressed : ∃ worker,
    c.stores.workers.get a.workerId (c.stores.tasks.get id w).2 = (.ok worker, w') ∧
      (Proxy.ofRecord worker).request .get ["task", a.remoteId] none = .ok request
  spared : v.sparing.leads w w'

/-- How asking for a task ends once the outcome of the request is there, in the world `w`. -/
inductive Concludes (v : TaskView ω) (id : String) (t : Task) (said : Except CallFault WorkerReport)
    (w : ω) : Except Failure TaskReport → ω → Prop
  | refused (e : Failure) {w' : ω} (same : v.contents? w' = v.contents? w) :
    Concludes v id t said w (.error e) w'
  | unended {report : WorkerReport} {w' : ω} (hsaid : said = .ok report)
    (unended : report.state.isTerminal = false) (same : v.contents? w' = v.contents? w) :
    Concludes v id t said w (.ok (.ofWorker t report)) w'
  | ended {report : WorkerReport} {m : TaskContents} {w' : ω} (hsaid : said = .ok report)
    (ended : report.state.isTerminal = true) (before : v.contents? w = some m)
    (removed : v.contents? w' = some (Function.update m id none)) :
    Concludes v id t said w (.ok (.ofWorker t report)) w'

/-- How far asking for a task gets by itself, and how it goes on. -/
inductive Polls (c : Scheduler ω) (v : TaskView ω) (id : String) (w : ω) :
    Act (State ω) (Except Failure TaskReport) → Prop
  | refused (e : Failure) {s' : State ω} (spared : v.sparing.leads w s'.world) :
    Polls c v id w (.finished (.error e) s')
  | untaken {r : TaskRecord} {s' : State ω} (read : v.Reads w id r)
    (unassigned : (Task.ofRecord r).assignment = none) (spared : v.sparing.leads w s'.world) :
    Polls c v id w (.finished (.ok (.ofTask (.ofRecord r))) s')
  | asks {r : TaskRecord} {a : Assignment} {request : Http.Request} {u : State ω}
    {resume : Http.Outcome → State ω → Act (State ω) (Except Failure TaskReport)}
    (asks : c.Asks v id w r a request u.world)
    (concludes : ∀ o u', v.IsSound u'.world → ∃ result s', resume o u' = .finished result s' ∧
      v.IsSound s'.world ∧
        Concludes v id (.ofRecord r) (request.report? o) u'.world result s'.world) :
    Polls c v id w (.waiting request u resume)

/-- What follows the report of a worker. -/
lemma concludes_report (hk : c.stores.KeepTasks v) (t : Task) (report : WorkerReport)
    (hs : v.IsSound s.world) :
    ∃ result s', (do
        if report.state.isTerminal then query (c.stores.tasks.remove id)
        return TaskReport.ofWorker t report : Operation (State ω) TaskReport) s =
          .finished result s' ∧
      v.IsSound s'.world ∧ Concludes v id t (.ok report) s.world result s'.world := by
  cases hended : report.state.isTerminal with
  | false => exact ⟨_, s, rfl, hs, .unended rfl hended rfl⟩
  | true =>
    show ∃ result s', (query (c.stores.tasks.remove id) >>= fun _ => pure _) s = _ ∧ _
    rcases hremove : c.stores.tasks.remove id s.world with ⟨a, w⟩
    obtain ⟨hw, ⟨⟨e, rfl⟩, hsame⟩ | ⟨m, hm, rfl, hm'⟩⟩ := hk.remove hs hremove
    · rw [Manager.State.query_bind_error hremove]
      exact ⟨_, _, rfl, hw, .refused e hsame⟩
    · rw [Manager.State.query_bind_ok hremove]
      exact ⟨_, _, rfl, hw, .ended rfl hended hm hm'⟩

/-- **Asking for the status of a task**: what is reported, who is asked, and what is removed.

**Proof sketch.** Neither the reading of the record nor the look for the worker writes anything
about tasks, so the contents are the same up to the answer of the worker. What follows it is at most
one removal. -/
theorem polls_status (hk : c.stores.KeepTasks v) (hs : v.IsSound s.world) (id : String) :
    c.Polls v id s.world (c.status id s) := by
  rcases hget : c.stores.tasks.get id s.world with ⟨e | t, w⟩
  · obtain ⟨hw, hsame, -⟩ := hk.get hs hget
    rw [status, Manager.State.query_bind_error hget]
    exact .refused e fun _ => ⟨hw, hsame⟩
  obtain ⟨hw, hsame, hread⟩ := hk.get hs hget
  obtain ⟨m, r, hm, hload, rfl⟩ := hread t rfl
  have hspared : v.sparing.leads s.world w := fun _ => ⟨hw, hsame⟩
  have hreads : v.Reads s.world id r := ⟨m, hm, hload⟩
  cases ha : (Task.ofRecord r).assignment with
  | none =>
    rw [status_of_unassigned hget ha]
    exact .untaken hreads ha hspared
  | some a =>
    rw [status_of_assigned hget ha, inquire, Operation.bind_apply]
    have hworker : v.sparing.leads s.world (c.stores.workers.get a.workerId w).2 := by
      have hobserves := hk.workers.perform (.get a.workerId) w
      rw [WorkerCall.perform, Query.map_apply] at hobserves
      exact v.sparing.trans hspared hobserves
    obtain ⟨e, s', hrun, hworld⟩ |
        ⟨worker, request, u, resume, hfound, hrequest, hrun, fail, hend⟩ :=
      remoteStatus_cases c a { s with world := w }
    · rw [hrun]
      refine .refused e ?_
      rw [hworld]
      exact hworker
    · rw [hrun]
      rw [show (c.stores.workers.get a.workerId w).2 = u.world from congrArg Prod.snd hfound]
        at hworker
      refine .asks ⟨hreads, ha, ⟨worker, by rw [hget]; exact hfound, hrequest⟩, hworker⟩ ?_
      intro o u' hu'
      obtain ⟨s', hworld, hresume⟩ := hend o u'
      rw [← hworld] at hu' ⊢
      show ∃ result t, (resume o u').andThen _ = _ ∧ _
      rw [hresume]
      cases request.report? o with
      | error fault => exact ⟨_, s', rfl, hu', .refused _ rfl⟩
      | ok report => exact concludes_report hk (.ofRecord r) report hu'

/-! ## A system with a configuration -/

/-- A scheduler with the stores of the default configuration, whose calls may fail. -/
def basic (rollback : Bool) : Scheduler (Faulty Site) where
  stores := (Site.stores {}).withFaults
  settings := strict.settings
  rollback := rollback

/-- The state in which nothing has happened yet. -/
def initialFaulty : State (Faulty Site) where
  world := ⟨initial.world, [], []⟩
  balancer := initial.balancer

/-- The state once a worker has registered. -/
def staffed : State (Faulty Site) :=
  (((basic false).register ⟨"w", "a:1", 3⟩ initialFaulty).run fun _ => .unanswered).2

/-- The state once the worker has taken a task. -/
def engaged : State (Faulty Site) :=
  (((basic false).schedule newTask staffed).run fun _ => acceptance).2

/-- The state once a task was written whose state is one in which tasks have ended. There is no
worker for it. -/
def untaken : State (Faulty Site) :=
  (((basic false).schedule { newTask with state := .done } initialFaulty).run
    fun _ => .unanswered).2

end Scheduler

section Faults

variable {config : Config} {c : Scheduler (Faulty Site)} {s : State (Faulty Site)} {id : String}

/-- The stores of a configuration keep the tasks, also if some calls fail. -/
lemma keepTasks_of_stores (hc : c.stores = (Site.stores config).withFaults) :
    c.stores.KeepTasks config.tasks.viewFaulty := by
  rw [hc]
  exact TaskBackend.keepTasks_withFaults (Site.keepTasks config)

/-- Asking for a task without a record fails, and changes nothing.

**Proof sketch.** The store reads the record off its contents unless a rule makes the call fail.
Absent contents give no record, so the call fails either way and leaves them as they are; without a
rule the error is the one of a missing task. -/
lemma status_of_absent (hc : c.stores = (Site.stores config).withFaults)
    (hs : config.tasks.IsUndisturbed s.world.base) {m : TaskContents}
    (hm : config.tasks.contents? s.world.base = some m) (habsent : m id = none) :
    ∃ e s', c.status id s = .finished (.error e) s' ∧
      config.tasks.contents? s'.world.base = some m ∧
      ((FaultRule.apply .getTask id s.world.rules).1 = none →
        e = .reported (.taskNotFound id)) := by
  have hload : m.load id = .error (.taskNotFound id) := by
    rw [TaskContents.load, habsent]
  rcases hget : c.stores.tasks.get id s.world with ⟨e | t, w⟩
  · have hstatus : c.status id s = .finished (.error e) { s with world := w } := by
      rw [Scheduler.status, Manager.State.query_bind_error hget]
    obtain ⟨-, hsame, -⟩ := (keepTasks_of_stores hc).get hs hget
    refine ⟨e, _, hstatus, hsame.trans hm, fun hrule => ?_⟩
    obtain ⟨site, hperform, -⟩ := TaskBackend.perform_eq hs hm (.get id)
    have hguarded : (Faulty.guarded .getTask id ((Site.stores config).tasks.get id) s.world).1 =
        .error e := by
      rw [hc] at hget
      exact congrArg Prod.fst hget
    rw [Faulty.guarded_of_spared hrule, Site.tasks_stores] at hguarded
    have hanswer := congrArg Prod.fst hperform
    rw [TaskCall.perform, Query.map_apply] at hanswer
    simp only [hguarded, TaskContents.respond, hload] at hanswer
    exact Except.error.inj hanswer
  · obtain ⟨-, -, hread⟩ := (keepTasks_of_stores hc).get hs hget
    obtain ⟨m', r, hm', hr, -⟩ := hread t rfl
    obtain rfl := Option.some.inj (hm.symm.trans hm')
    exact absurd (hload.symm.trans hr) (by simp)

/-- **A record is removed exactly if its worker reports the end of the task.** Whatever the stores
hold, asking for a task comes to an end by itself or sends one request and comes to an end after its
outcome.

Without a request nothing is removed. A report is then the one of a record without an assignment,
whatever state it is in; so if that record says that the task has ended, this is what is reported,
and the record stays all the same.

A request goes to the address in the record of the worker to whom the task is assigned. Whatever the
outcome is, and whatever happens in the meantime: the report has the id and the kind in the record
of the task, and what the worker said besides; if the state is one in which tasks have ended,
nothing is left under the id, and asking again fails; in any other case nothing changes.

**Proof sketch.** By `polls_status`, the call ends without a request, or asks and concludes. In the
first case the store was only read. In the second it concludes with a failure, with a report of a
task that goes on, or with one of a task that has ended; only the last removes the record, and then
`status_of_absent` says what asking again does. -/
theorem status_removes_iff (hc : c.stores = (Site.stores config).withFaults)
    (hs : config.tasks.IsUndisturbed s.world.base) (id : String) :
    (∃ result s', c.status id s = .finished result s' ∧
        config.tasks.contents? s'.world.base = config.tasks.contents? s.world.base ∧
        ∀ report, result = .ok report → ∃ r, config.tasks.viewFaulty.Reads s.world id r ∧
          (Task.ofRecord r).assignment = none ∧ report = .ofTask (.ofRecord r)) ∨
      ∃ r a request u resume, c.status id s = .waiting request u resume ∧
        c.Asks config.tasks.viewFaulty id s.world r a request u.world ∧
        config.tasks.contents? u.world.base = config.tasks.contents? s.world.base ∧
        ∀ o u', config.tasks.IsUndisturbed u'.world.base →
          ∃ result s', resume o u' = .finished result s' ∧
            (∀ report, result = .ok report → report.taskId = r.id ∧ report.taskType = r.taskType ∧
              report.subType = r.subType ∧ ∃ said, request.report? o = .ok said ∧
                report.state = said.state ∧ report.data = said.data) ∧
            ((∃ report, result = .ok report ∧ report.state.isTerminal = true) ∧
                (∃ m, config.tasks.contents? u'.world.base = some m ∧
                  config.tasks.contents? s'.world.base = some (Function.update m id none)) ∧
                (∃ e s'', c.status id s' = .finished (.error e) s'' ∧
                  ((FaultRule.apply .getTask id s'.world.rules).1 = none →
                    e = .reported (.taskNotFound id))) ∨
              (∀ report, result = .ok report → report.state.isTerminal = false) ∧
                config.tasks.contents? s'.world.base = config.tasks.contents? u'.world.base) := by
  have hpolls := Scheduler.polls_status (keepTasks_of_stores hc) hs id
  generalize hact : c.status id s = act at hpolls ⊢
  cases hpolls with
  | refused e spared =>
    exact .inl ⟨_, _, rfl, (spared hs).2, fun report hreport => absurd hreport (by simp)⟩
  | untaken read unassigned spared =>
    refine .inl ⟨_, _, rfl, (spared hs).2, fun report hreport => ?_⟩
    exact ⟨_, read, unassigned, (Except.ok.inj hreport).symm⟩
  | asks asks concludes =>
    refine .inr ⟨_, _, _, _, _, rfl, asks, (asks.spared hs).2, fun o u' hu' => ?_⟩
    obtain ⟨result, s', hresume, hs', hends⟩ := concludes o u' hu'
    refine ⟨result, s', hresume, ?_⟩
    cases hends with
    | refused e same =>
      exact ⟨fun report hreport => absurd hreport (by simp),
        .inr ⟨fun report hreport => absurd hreport (by simp), same⟩⟩
    | unended hsaid unended same =>
      refine ⟨fun report hreport => ?_, .inr ⟨fun report hreport => ?_, same⟩⟩
      · obtain rfl := Except.ok.inj hreport
        exact ⟨rfl, rfl, rfl, _, hsaid, rfl, rfl⟩
      · obtain rfl := Except.ok.inj hreport
        exact unended
    | ended hsaid ended before removed =>
      refine ⟨fun report hreport => ?_, .inl ⟨⟨_, rfl, ended⟩, ⟨_, before, removed⟩, ?_⟩⟩
      · obtain rfl := Except.ok.inj hreport
        exact ⟨rfl, rfl, rfl, _, hsaid, rfl, rfl⟩
      · obtain ⟨e, s'', hagain, -, hmissing⟩ :=
          status_of_absent hc hs' removed (Function.update_self ..)
        exact ⟨e, s'', hagain, hmissing⟩

/-- The record of a task that was taken is removed when its worker reports that it is done. -/
theorem status_removes_done :
    TaskBackend.memory.IsUndisturbed Scheduler.engaged.world.base ∧
      ∃ request u resume,
        (Scheduler.basic false).status "t" Scheduler.engaged = .waiting request u resume ∧
          ∃ s' m, resume Scheduler.completion u =
              .finished (.ok ⟨"t", .done, "convert", "pdf", .null⟩) s' ∧
            TaskBackend.memory.contents? u.world.base = some m ∧ (m "t").isSome = true ∧
            TaskBackend.memory.contents? s'.world.base = some (Function.update m "t" none) ∧
            ∃ s'', (Scheduler.basic false).status "t" s' =
              .finished (.error (.reported (.taskNotFound "t"))) s'' := by
  refine ⟨trivial, ?_⟩
  have hreport : (((Scheduler.basic false).status "t" Scheduler.engaged).run
      fun _ => Scheduler.completion).1 = .ok ⟨"t", .done, "convert", "pdf", .null⟩ := by
    decide +kernel
  have hrules : (((Scheduler.basic false).status "t" Scheduler.engaged).run
      fun _ => Scheduler.completion).2.world.rules = [] := by
    decide +kernel
  have hrecord : (MemoryTasks.contents Scheduler.engaged.world.base.tasks).load "t" =
      .ok (Task.toRecord { Scheduler.newTask with assignment := some ⟨"w", "r"⟩ } .epoch) := by
    decide +kernel
  obtain ⟨result, s', hstatus, -, hends⟩ |
      ⟨r, a, request, u, resume, hstatus, hasks, hsame, hends⟩ :=
    status_removes_iff (c := .basic false)
      (show (Scheduler.basic false).stores = (Site.stores {}).withFaults from rfl) trivial "t"
  · rw [hstatus] at hreport
    obtain ⟨r, ⟨m, hm, hload⟩, hunassigned, -⟩ := hends _ hreport
    obtain rfl := Option.some.inj hm
    obtain rfl := Except.ok.inj (hrecord.symm.trans hload)
    exact absurd hunassigned (by decide)
  · obtain ⟨result, s', hresume, -, ⟨-, ⟨m, hm, hm'⟩, e, s'', hagain, hmissing⟩ | ⟨hunended, -⟩⟩ :=
      hends Scheduler.completion u trivial
    · rw [hstatus, Act.run, hresume] at hreport hrules
      have hanswer : result = .ok ⟨"t", .done, "convert", "pdf", .null⟩ := hreport
      obtain rfl := hmissing (by rw [show s'.world.rules = [] from hrules]; rfl)
      have hthere : (m "t").isSome = true := by
        obtain rfl := Option.some.inj (hsame.symm.trans hm)
        decide +kernel
      rw [hanswer] at hresume
      exact ⟨request, u, resume, hstatus, s', m, hresume, hm, hthere, hm', s'', hagain⟩
    · rw [hstatus, Act.run, hresume] at hreport
      exact absurd (hunended _ hreport) (by decide)

/-- A record that says that its task is done, without an assignment, is reported as done each time
again, and stays. -/
theorem status_keeps_untaken :
    (((Scheduler.basic false).status "t" Scheduler.untaken).run fun _ => .unanswered).1 =
        .ok ⟨"t", .done, "convert", "pdf", .null⟩ ∧
      let s' := (((Scheduler.basic false).status "t" Scheduler.untaken).run fun _ => .unanswered).2
      (MemoryTasks.contents s'.world.base.tasks "t").isSome = true ∧
        (((Scheduler.basic false).status "t" s').run fun _ => .unanswered).1 =
          .ok ⟨"t", .done, "convert", "pdf", .null⟩ := by
  decide +kernel

end Faults

end ConversionScheduler
