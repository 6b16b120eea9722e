import ConversionScheduler.Config.Basic
import ConversionScheduler.Text.Lowercase
/-!
# Configurations that can be used

A configuration that could be read may still be of no use. Its sections are checked in a fixed
order, and the first fault is reported, under the name of its section.

## Main definitions

* `ConfigFault`, `ConfigFault.chain` — what can be wrong, and how it is reported.
* `Config.validate` — the check.
-/

namespace ConversionScheduler

/-- What can be wrong with a configuration. -/
inductive ConfigFault
  | unknownBalancer (name : String)
  | noEvictionInterval
  | noStaleThreshold
  | noErrorCount
  | noRequestTimeout
  | noConnectTimeout
  | noRedisUrl
  | badRedisUrl (url : String)
  | noKeyPrefix
  | noCommandTimeout
  | noWorkerTtl
  /-- Records would run out before their workers count as silent. -/
  | thresholdAboveTtl (threshold ttl : Nat)
  | unknownLevel (level : String)
  | workerWithoutId
  | workerWithoutAddress (id : String)
deriving DecidableEq

/-- The levels of log lines. -/
def logLevels : List String := ["trace", "debug", "info", "warn", "error"]

/-- Words in quotes, with commas between them, in brackets. -/
def quotedList (ws : List String) : String :=
  "[" ++ ", ".intercalate (ws.map fun w => "\"" ++ w ++ "\"") ++ "]"

namespace ConfigFault

/-- The section that a fault is in, if it is in one. -/
def section? : ConfigFault → Option String
  | .unknownBalancer _ | .noEvictionInterval | .noStaleThreshold | .noErrorCount =>
    some "调度器配置验证失败"
  | .noRequestTimeout | .noConnectTimeout => some "Worker客户端配置验证失败"
  | .noRedisUrl | .badRedisUrl _ | .noKeyPrefix | .noCommandTimeout => some "Redis配置验证失败"
  | .unknownLevel _ => some "日志配置验证失败"
  | _ => none

/-- The wording of a fault. -/
def message : ConfigFault → String
  | .unknownBalancer name =>
    "无效的负载均衡策略: " ++ name ++ "，支持的策略: " ++ quotedList Balancer.names
  | .noEvictionInterval => "驱逐检查间隔必须大于0"
  | .noStaleThreshold => "心跳超时阈值必须大于0"
  | .noErrorCount => "最大连续错误次数必须大于0"
  | .noRequestTimeout => "Worker请求超时时间必须大于0"
  | .noConnectTimeout => "Worker连接超时时间必须大于0"
  | .noRedisUrl => "Redis URL不能为空"
  | .badRedisUrl url => "Redis URL格式无效: " ++ url
  | .noKeyPrefix => "Redis键前缀不能为空"
  | .noCommandTimeout => "Redis命令超时时间必须大于0"
  | .noWorkerTtl => "Worker记录过期时间必须大于0"
  | .thresholdAboveTtl threshold ttl =>
    "心跳超时阈值 (" ++ Decimal.text threshold ++ "秒) 不能大于Worker记录过期时间 (" ++
      Decimal.text ttl ++ "秒)"
  | .unknownLevel level =>
    "无效的日志级别: " ++ level ++ "，支持的级别: " ++ quotedList logLevels
  | .workerWithoutId => "静态Worker的ID不能为空"
  | .workerWithoutAddress id => "Worker " ++ id ++ " 的地址不能为空"

/-- The messages of a fault, the outermost first. -/
def chain (f : ConfigFault) : List String := f.section?.toList ++ [f.message]

end ConfigFault

/-- Fails unless a condition holds. -/
def require (p : Bool) (f : ConfigFault) : Except ConfigFault Unit :=
  if p then .ok () else .error f

/-- Checks the section of the scheduler. -/
def SchedulerConfig.validate (c : SchedulerConfig) : Except ConfigFault Unit := do
  require (Balancer.names.contains c.loadBalancer) (.unknownBalancer c.loadBalancer)
  require (0 < c.evictionIntervalSeconds) .noEvictionInterval
  require (0 < c.staleThresholdSeconds) .noStaleThreshold
  require (!c.healthCheckEnabled || 0 < c.maxErrorCount) .noErrorCount

/-- Checks the section of the requests to workers. -/
def WorkerClientConfig.validate (c : WorkerClientConfig) : Except ConfigFault Unit := do
  require (0 < c.requestTimeoutSeconds) .noRequestTimeout
  require (0 < c.connectTimeoutSeconds) .noConnectTimeout

/-- Checks the section of Redis. -/
def RedisConfig.validate (c : RedisConfig) : Except ConfigFault Unit := do
  require (c.url ≠ "") .noRedisUrl
  require (c.url.startsWith "redis://" || c.url.startsWith "rediss://") (.badRedisUrl c.url)
  require (c.keyPrefix ≠ "") .noKeyPrefix
  require (0 < c.commandTimeoutSeconds) .noCommandTimeout

/-- Checks the section of the log. The level may be written in any case. -/
def LogConfig.validate (c : LogConfig) : Except ConfigFault Unit :=
  require (logLevels.contains (lowerCase c.level)) (.unknownLevel c.level)

/-- Checks a worker that is to be registered at the start. -/
def Registration.validate (r : Registration) : Except ConfigFault Unit := do
  require (r.id ≠ "") .workerWithoutId
  require (r.addr ≠ "") (.workerWithoutAddress r.id)

namespace Config

/-- Checks that no worker's record runs out before the worker counts as silent. -/
def validateTtl (c : Config) : Except ConfigFault Unit := do
  let ttl := c.redis.workerTtlSeconds
  require (0 < ttl) .noWorkerTtl
  require (c.scheduler.staleThresholdSeconds ≤ ttl)
    (.thresholdAboveTtl c.scheduler.staleThresholdSeconds ttl)

/-- Checks a configuration. The section of Redis counts only if a store is there. -/
def validate (c : Config) : Except ConfigFault Unit := do
  c.scheduler.validate
  c.workerClient.validate
  if c.usesRedis then c.redis.validate
  c.validateTtl
  c.logging.validate
  c.workers.forM Registration.validate

end Config

end ConversionScheduler
