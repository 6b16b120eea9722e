import ConversionScheduler.Application
import ConversionScheduler.Logging.Event
/-!
# A run of the program

The program builds the application, starts it, waits for the signal to stop, and stops it. What it
does can be followed in the log.

## Main definitions

* `Service.Report` — the events of a run, and why it came to nothing if it did.
* `Service.run` — a run.
-/

namespace ConversionScheduler.Service

open Manager (State)

/-- A run of the program. -/
structure Report where
  /-- The events until the application is up. -/
  opening : List Event
  /-- The events from the signal to the end. -/
  closing : List Event
  fault : Option ApplicationFault
deriving DecidableEq

/-- The events of a run. -/
def Report.events (r : Report) : List Event := r.opening ++ r.closing

/-- An event that tells what was done. -/
def note (target message : String) : Event := { severity := .info, target, message }

/-- An event that tells what went wrong. -/
def failure (target message : String) : Event := { severity := .error, target, message }

/-! ## Building the application -/

/-- What is said before anything is done. -/
def greeting (c : Config) (path? : Option String) : List Event :=
  note "docsched" "启动文档转换任务调度系统" ::
    (path?.map fun p => note "docsched" ("配置文件: " ++ p)).toList ++
    [note "docsched::app" ("初始化应用程序 (负载均衡: " ++ c.scheduler.loadBalancer ++
      ", Worker注册表: " ++ c.workerStore.backend.title ++
      ", 任务注册表: " ++ c.taskStore.backend.title ++ ")")]

/-- Where the connection to Redis is reported. -/
def connectionTarget : String := "docsched_infrastructure::redis_store::connection"

/-- What is said about the connection to Redis, which may have failed with an error. -/
def connectionEvents (c : Config) (error? : Option Error) : List Event :=
  if c.usesRedis then
    note connectionTarget ("连接Redis: " ++ c.redis.url) ::
      match error? with
      | none => [note connectionTarget "Redis连接成功"]
      | some (.storeUnavailable (.oddPing reply)) =>
        [failure connectionTarget ("Redis PING 响应异常: " ++ reply)]
      | some (.storeUnavailable fault) => [failure connectionTarget fault.message]
      | some _ => []
  else []

/-- The name of a place in the events of the stores. -/
def placeName : StoreBackend → String
  | .redis => "Redis"
  | .memory => "内存"

/-- What is said about the stores. -/
def storeEvents (c : Config) : List Event :=
  let say (what : String) (b : StoreBackend) : Event :=
    note "docsched_infrastructure::store_factory" (what ++ "注册表使用" ++ placeName b ++ "后端")
  [say "Worker" c.workerStore.backend, say "任务" c.taskStore.backend]

/-- What is said when the eviction loop begins. -/
def loopEvent (s : ManagerSettings) : Event :=
  note "docsched_dispatcher::worker_manager" ("Worker驱逐循环已启动 (间隔: " ++
    s.evictionInterval.text ++ ", 心跳超时: " ++ s.staleThreshold.text ++ ")")

/-! ## Registering the workers -/

/-- What the store says when a worker is written to it. In memory, one that is there already is not
worth mentioning. -/
def writingEvents (b : StoreBackend) (known : Bool) (r : Registration) : List Event :=
  match b with
  | .memory =>
    if known then []
    else [note "docsched_infrastructure::memory::worker_store"
      ("Worker " ++ r.id ++ " 已注册: " ++ r.addr)]
  | .redis => [note "docsched_infrastructure::redis_store::worker_store"
      ("Worker " ++ r.id ++ " 已写入注册表: " ++ r.addr)]

/-- What is said about the outcome of a registration. -/
def outcomeEvent (r : Registration) : Except Error Unit → Event
  | .ok () => note "docsched_dispatcher::worker_manager"
      ("Worker " ++ r.id ++ " 注册成功: " ++ r.addr)
  | .error e =>
    { severity := .warn, target := "docsched::app",
      message := "注册静态Worker " ++ r.id ++ " 失败: " ++ e.message }

/-- Registers a worker and gives what is said about it, and whether it was registered. -/
def register (a : Application Site) (b : StoreBackend) (r : Registration) :
    Operation (State Site) (List Event × Bool) := do
  let known ← match b with
    | .memory => do
      let found ← (State.query (a.scheduler.stores.workers.get r.id)).attempt
      pure found.toOption.isSome
    | .redis => pure false
  let outcome ← (a.scheduler.register r).attempt
  let registered := Application.succeeded outcome
  let written := if registered then writingEvents b known r else []
  return (written ++ [outcomeEvent r outcome], registered)

/-- What is said when the workers have been registered. -/
def upEvent (outcomes : List (List Event × Bool)) : Event :=
  note "docsched::app" ("应用程序已启动，静态Worker " ++
    Decimal.text (outcomes.filter (·.2)).length ++ "/" ++ Decimal.text outcomes.length ++ " 个")

/-! ## The end -/

/-- What is said between the signal and the end of the application. -/
def signalEvents : List Event :=
  [note "docsched" "收到SIGTERM信号", note "docsched" "收到关闭信号，开始优雅关闭...",
    note "docsched::shutdown" "关闭信号已发送"]

/-- What is said when the application stops. -/
def stopEvents : List Event :=
  [note "docsched::app" "收到关闭信号，停止调度器",
    note "docsched_dispatcher::scheduler" "正在停止调度器",
    note "docsched_dispatcher::worker_manager" "Worker驱逐循环已停止",
    note "docsched_dispatcher::scheduler" "调度器已停止",
    note "docsched" "应用已优雅关闭"]

/-- The last word. -/
def farewell : Event := note "docsched" "文档转换任务调度系统已退出"

/-! ## A run -/

/-- A run with a configuration. The signal to stop is given as soon as the application is up. -/
def run (c : Config) (path? : Option String) (s : Site) : Report :=
  match Application.build c s with
  | (.error f, _) => ⟨greeting c path? ++ connectionEvents c (some f.error), [], some f⟩
  | (.ok b, s') =>
    let a := Application.ofConfig c (Site.stores c)
    let built := greeting c path? ++ connectionEvents c none ++ storeEvents c ++
      [loopEvent a.scheduler.settings]
    let registered := (c.workers.mapM (register a c.workerStore.backend)) (a.initial b s')
    match (registered.run fun _ => .unanswered).1 with
    | .ok outcomes =>
      ⟨built ++ (outcomes.map (·.1)).flatten ++ [upEvent outcomes],
        signalEvents ++ stopEvents ++ [farewell], none⟩
    | .error _ =>
      ⟨built, signalEvents ++ [failure "docsched"
        "应用关闭时发生错误: overflow when adding duration to instant", farewell], none⟩

end ConversionScheduler.Service
