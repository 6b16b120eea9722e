import ConversionScheduler.Manager.Basic
import ConversionScheduler.Redis.Dialogue
import ConversionScheduler.Worker.Record
/-!
# Configuration

## Main definitions

* `Config` and its sections — what can be configured, with the defaults.
* `Config.read?` — a configuration in any notation in which records can be written.
* `Config.toJson` — a configuration as JSON.
* `Config.managerSettings` — the settings of the manager of the workers.
-/

namespace ConversionScheduler

/-- Where a store lives. -/
inductive StoreBackend
  | memory
  | redis
deriving DecidableEq, Inhabited

namespace StoreBackend

/-- The word for a place. -/
def word : StoreBackend → String
  | .memory => "memory"
  | .redis => "redis"

/-- The name of a place in messages. -/
def title : StoreBackend → String
  | .memory => "Memory"
  | .redis => "Redis"

/-- Reads a place. -/
def read? {ν : Type} (d : Dialect ν) (v : ν) : Option StoreBackend :=
  (d.choice? ["memory", "redis"] v).map fun w => if w = "redis" then .redis else .memory

end StoreBackend

/-- The form of log lines. -/
inductive LogFormat
  | json
  | pretty
deriving DecidableEq, Inhabited

namespace LogFormat

/-- The word for a form. -/
def word : LogFormat → String
  | .json => "json"
  | .pretty => "pretty"

/-- The name of a form in messages. -/
def title : LogFormat → String
  | .json => "Json"
  | .pretty => "Pretty"

/-- Reads a form. -/
def read? {ν : Type} (d : Dialect ν) (v : ν) : Option LogFormat :=
  (d.choice? ["json", "pretty"] v).map fun w => if w = "json" then .json else .pretty

end LogFormat

/-- How tasks are distributed and workers watched. -/
structure SchedulerConfig where
  loadBalancer : String := "rr"
  evictionIntervalSeconds : Nat := 5
  staleThresholdSeconds : Nat := 300
  healthCheckEnabled : Bool := true
  maxErrorCount : Nat := 3
  rollbackOnDispatchFailure : Bool := false
deriving DecidableEq, Inhabited

/-- Where a store lives. -/
structure StoreConfig where
  backend : StoreBackend := .memory
deriving DecidableEq, Inhabited

/-- How to reach Redis. The time after which a worker's record runs out holds for every store. -/
structure RedisConfig where
  url : String := "redis://127.0.0.1:6379"
  keyPrefix : String := "ktools"
  commandTimeoutSeconds : Nat := 5
  workerTtlSeconds : Nat := 300
deriving DecidableEq, Inhabited

/-- How long to wait for workers. -/
structure WorkerClientConfig where
  requestTimeoutSeconds : Nat := 5
  connectTimeoutSeconds : Nat := 3
deriving DecidableEq, Inhabited

/-- What is logged, and how. -/
structure LogConfig where
  level : String := "info"
  format : LogFormat := .pretty
  includeLocation : Bool := false
deriving DecidableEq, Inhabited

/-- The configuration. -/
structure Config where
  scheduler : SchedulerConfig := {}
  workerStore : StoreConfig := {}
  taskStore : StoreConfig := {}
  redis : RedisConfig := {}
  workerClient : WorkerClientConfig := {}
  logging : LogConfig := {}
  /-- The workers that are registered at the start. -/
  workers : List Registration := []
deriving DecidableEq, Inhabited

/-! ## Reading -/

section Reading

variable {ν : Type} (d : Dialect ν)

/-- Reads the section of the scheduler. -/
def SchedulerConfig.read? (v : ν) : Option SchedulerConfig := do
  let fs ← d.fields? [["load_balancer"], ["eviction_interval_seconds"],
    ["stale_threshold_seconds"], ["health_check_enabled"], ["max_error_count"],
    ["rollback_on_dispatch_failure"]] v
  let default : SchedulerConfig := {}
  return {
    loadBalancer := ← fs.defaulted "load_balancer" default.loadBalancer d.text?
    evictionIntervalSeconds := ← fs.defaulted "eviction_interval_seconds"
      default.evictionIntervalSeconds (d.nat? Dialect.bound64)
    staleThresholdSeconds := ← fs.defaulted "stale_threshold_seconds"
      default.staleThresholdSeconds (d.nat? Dialect.bound64)
    healthCheckEnabled := ← fs.defaulted "health_check_enabled" default.healthCheckEnabled d.bool?
    maxErrorCount := ← fs.defaulted "max_error_count" default.maxErrorCount
      (d.nat? Dialect.bound32)
    rollbackOnDispatchFailure := ← fs.defaulted "rollback_on_dispatch_failure"
      default.rollbackOnDispatchFailure d.bool? }

/-- Reads the section of a store. -/
def StoreConfig.read? (v : ν) : Option StoreConfig := do
  let fs ← d.fields? [["backend"]] v
  return { backend := ← fs.defaulted "backend" .memory (StoreBackend.read? d) }

/-- Reads the section of Redis. -/
def RedisConfig.read? (v : ν) : Option RedisConfig := do
  let fs ← d.fields? [["url"], ["key_prefix"], ["command_timeout_seconds"],
    ["worker_ttl_seconds"]] v
  let default : RedisConfig := {}
  return {
    url := ← fs.defaulted "url" default.url d.text?
    keyPrefix := ← fs.defaulted "key_prefix" default.keyPrefix d.text?
    commandTimeoutSeconds := ← fs.defaulted "command_timeout_seconds"
      default.commandTimeoutSeconds (d.nat? Dialect.bound64)
    workerTtlSeconds := ← fs.defaulted "worker_ttl_seconds" default.workerTtlSeconds
      (d.nat? Dialect.bound64) }

/-- Reads the section of the requests to workers. -/
def WorkerClientConfig.read? (v : ν) : Option WorkerClientConfig := do
  let fs ← d.fields? [["request_timeout_seconds"], ["connect_timeout_seconds"]] v
  let default : WorkerClientConfig := {}
  return {
    requestTimeoutSeconds := ← fs.defaulted "request_timeout_seconds"
      default.requestTimeoutSeconds (d.nat? Dialect.bound64)
    connectTimeoutSeconds := ← fs.defaulted "connect_timeout_seconds"
      default.connectTimeoutSeconds (d.nat? Dialect.bound64) }

/-- Reads the section of the log. -/
def LogConfig.read? (v : ν) : Option LogConfig := do
  let fs ← d.fields? [["level"], ["format"], ["include_location"]] v
  let default : LogConfig := {}
  return {
    level := ← fs.defaulted "level" default.level d.text?
    format := ← fs.defaulted "format" default.format (LogFormat.read? d)
    includeLocation := ← fs.defaulted "include_location" default.includeLocation d.bool? }

/-- Reads a configuration. Every part of it may be left out. -/
def Config.read? (v : ν) : Option Config := do
  let fs ← d.fields? [["scheduler"], ["worker_store"], ["task_store"], ["redis"],
    ["worker_client"], ["logging"], ["workers"]] v
  return {
    scheduler := ← fs.defaulted "scheduler" {} (SchedulerConfig.read? d)
    workerStore := ← fs.defaulted "worker_store" {} (StoreConfig.read? d)
    taskStore := ← fs.defaulted "task_store" {} (StoreConfig.read? d)
    redis := ← fs.defaulted "redis" {} (RedisConfig.read? d)
    workerClient := ← fs.defaulted "worker_client" {} (WorkerClientConfig.read? d)
    logging := ← fs.defaulted "logging" {} (LogConfig.read? d)
    workers := ← fs.defaulted "workers" [] (d.list? (Registration.read? d)) }

end Reading

/-! ## Writing -/

/-- The JSON object of a configuration. -/
def Config.toJson (c : Config) : Json.Value :=
  .object [
    ("scheduler", .object [
      ("load_balancer", .string c.scheduler.loadBalancer),
      ("eviction_interval_seconds", .nat c.scheduler.evictionIntervalSeconds),
      ("stale_threshold_seconds", .nat c.scheduler.staleThresholdSeconds),
      ("health_check_enabled", .bool c.scheduler.healthCheckEnabled),
      ("max_error_count", .nat c.scheduler.maxErrorCount),
      ("rollback_on_dispatch_failure", .bool c.scheduler.rollbackOnDispatchFailure)]),
    ("worker_store", .object [("backend", .string c.workerStore.backend.word)]),
    ("task_store", .object [("backend", .string c.taskStore.backend.word)]),
    ("redis", .object [
      ("url", .string c.redis.url),
      ("key_prefix", .string c.redis.keyPrefix),
      ("command_timeout_seconds", .nat c.redis.commandTimeoutSeconds),
      ("worker_ttl_seconds", .nat c.redis.workerTtlSeconds)]),
    ("worker_client", .object [
      ("request_timeout_seconds", .nat c.workerClient.requestTimeoutSeconds),
      ("connect_timeout_seconds", .nat c.workerClient.connectTimeoutSeconds)]),
    ("logging", .object [
      ("level", .string c.logging.level),
      ("format", .string c.logging.format.word),
      ("include_location", .bool c.logging.includeLocation)]),
    ("workers", .array (c.workers.map Registration.toJson))]

namespace Config

/-- Whether one of the stores is in Redis. -/
def usesRedis (c : Config) : Bool :=
  c.workerStore.backend = .redis || c.taskStore.backend = .redis

/-- The settings of the manager of the workers. -/
def managerSettings (s : SchedulerConfig) (w : WorkerClientConfig) : ManagerSettings where
  evictionInterval := .ofSeconds s.evictionIntervalSeconds
  staleThreshold := .ofSeconds s.staleThresholdSeconds
  healthCheckEnabled := s.healthCheckEnabled
  maxErrorCount := s.maxErrorCount
  requestTimeout := .ofSeconds w.requestTimeoutSeconds
  connectTimeout := .ofSeconds w.connectTimeoutSeconds

end Config

/-- The connection that a section describes. -/
def RedisConfig.connection (c : RedisConfig) : Redis.Connection :=
  ⟨c.keyPrefix, .ofSeconds c.commandTimeoutSeconds⟩

/-- The time after which a worker's record runs out. -/
def RedisConfig.workerTtl (c : RedisConfig) : Duration := .ofSeconds c.workerTtlSeconds

end ConversionScheduler
