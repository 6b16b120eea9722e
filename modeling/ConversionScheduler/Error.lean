import ConversionScheduler.Time.Duration
import ConversionScheduler.Url.Fault
/-!
# Errors

What can go wrong, by cause. The wording is in one function for each type.

## Main definitions

* `CallError` — a request to a worker failed.
* `StoreFault` — a store could not be used.
* `Error` — the error of an operation of the scheduler.
* `Error.isSubmissionFailure` — whether a client's submission was turned down.
* `Failure` — how an operation ends that has no result.
-/

namespace ConversionScheduler

/-! ## Calls to workers -/

/-- Why no answer came from a worker. -/
inductive TransportFault
  /-- The worker's address is no URL. -/
  | badAddress (addr : String) (fault : Url.Fault)
  /-- The request could not be sent, or nothing came back. -/
  | unanswered (url : String)
  /-- The request could not be put together. -/
  | unsendable (url : String)
  /-- The answer broke off. -/
  | cutShort
  | other (text : String)
deriving DecidableEq

/-- The wording of a transport fault. -/
def TransportFault.message : TransportFault → String
  | .badAddress addr fault => "无效的Worker地址 " ++ addr ++ ": " ++ fault.message
  | .unanswered url => "error sending request for url (" ++ url ++ ")"
  | .unsendable url => "builder error for url (" ++ url ++ ")"
  | .cutShort => "error decoding response body"
  | .other text => text

/-- Why an answer with status 200 was of no use. -/
inductive AnswerFault
  | undecodable (detail : String)
  /-- An acknowledgement without an id for the task. -/
  | missingTaskId
  | other (text : String)
deriving DecidableEq

/-- The wording of an answer fault. -/
def AnswerFault.message : AnswerFault → String
  | .undecodable detail => detail
  | .missingTaskId => "响应缺少task_id"
  | .other text => text

/-- Why a request to a worker failed. -/
inductive CallFault
  | transport (fault : TransportFault)
  | rejected (status : Nat) (body : String)
  | malformed (fault : AnswerFault)
deriving DecidableEq

/-- A request to a worker that failed. -/
structure CallError where
  workerId : String
  fault : CallFault
deriving DecidableEq

namespace CallError

/-- Whether no answer came. -/
def isTransport (e : CallError) : Bool :=
  match e.fault with
  | .transport _ => true
  | _ => false

/-- The wording of a call error. -/
def message (e : CallError) : String :=
  "Worker " ++ e.workerId ++
    match e.fault with
    | .transport fault => " 网络错误: " ++ fault.message
    | .rejected status body => " 拒绝请求: HTTP " ++ Decimal.text status ++ " - " ++ body
    | .malformed fault => " 响应格式错误: " ++ fault.message

end CallError

/-! ## Stores -/

/-- What was going on with the database server. -/
inductive Exchange
  | connecting
  | command
  | pipeline
deriving DecidableEq

/-- The wording of an exchange. -/
def Exchange.message : Exchange → String
  | .connecting => "建立Redis连接"
  | .command => "Redis命令执行失败"
  | .pipeline => "Redis管道执行失败"

/-- Why a store could not be used. -/
inductive StoreFault
  | refused (during : Exchange) (detail : String)
  | timedOut (during : Exchange) (limit : Duration)
  /-- The server answered a `PING` with something else than `PONG`. -/
  | oddPing (reply : String)
  | other (text : String)
deriving DecidableEq

/-- The wording of a store fault. -/
def StoreFault.message : StoreFault → String
  | .refused during detail => during.message ++ ": " ++ detail
  | .timedOut during limit => during.message ++ ": 超时 (" ++ limit.text ++ ")"
  | .oddPing reply => "Unexpected PING response: " ++ reply
  | .other text => text

/-! ## Operations -/

/-- Why a setting is of no use. -/
inductive SettingFault
  | unknownBalancer (name : String)
  | redisUrl (detail : String)
  | other (text : String)
deriving DecidableEq

/-- The wording of a setting fault. -/
def SettingFault.message : SettingFault → String
  | .unknownBalancer name => "未知的负载均衡策略: " ++ name
  | .redisUrl detail => "Redis URL无效: " ++ detail
  | .other text => text

/-- What the program itself does not allow. -/
inductive InternalFault
  /-- A task was assigned a second time. -/
  | alreadyAssigned (taskId workerId : String)
  | other (text : String)
deriving DecidableEq

/-- The wording of an internal fault. -/
def InternalFault.message : InternalFault → String
  | .alreadyAssigned taskId workerId =>
    "任务 " ++ taskId ++ " 已分配给Worker " ++ workerId ++ "，不允许重复分配"
  | .other text => text

/-- The error of an operation. -/
inductive Error
  | invalidTask (taskType subType : String)
  | taskNotFound (id : String)
  | workerNotFound (id : String)
  | noWorkerAvailable
  | dispatchFailure (call : CallError)
  | statusCheckFailure (call : CallError)
  | storeUnavailable (fault : StoreFault)
  | serialization (detail : String)
  | configuration (fault : SettingFault)
  | internal (fault : InternalFault)
deriving DecidableEq

namespace Error

/-- The wording of an error. -/
def message : Error → String
  | .invalidTask taskType subType => "无效的任务类型: " ++ taskType ++ "/" ++ subType
  | .taskNotFound id => "任务未找到: " ++ id
  | .workerNotFound id => "Worker未找到: " ++ id
  | .noWorkerAvailable => "没有可用的Worker"
  | .dispatchFailure call => "任务分发失败: " ++ call.message
  | .statusCheckFailure call => "状态检查失败: " ++ call.message
  | .storeUnavailable fault => "存储不可用: " ++ fault.message
  | .serialization detail => "序列化错误: " ++ detail
  | .configuration fault => "配置错误: " ++ fault.message
  | .internal fault => "内部错误: " ++ fault.message

/-- Whether the error turns down a submission: the task is of an unknown kind, no worker is there
to take it, or the chosen worker did not. -/
def isSubmissionFailure : Error → Bool
  | .invalidTask .. | .noWorkerAvailable | .dispatchFailure _ => true
  | _ => false

/-- Text that could not be decoded. -/
def undecodable : Error := .serialization "undecodable JSON"

end Error

/-- How an operation ends that has no result. -/
inductive Failure
  | reported (error : Error)
  /-- A point in time lay beyond what the clock can hold; the operation was abandoned. -/
  | crashed
deriving DecidableEq

end ConversionScheduler
