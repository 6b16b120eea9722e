import ConversionScheduler.Config.Loading
import ConversionScheduler.Error
import ConversionScheduler.Logging.Filter
/-!
# The log

The program has one log, which is opened once. The configuration says what is logged and in which
form; a filter in the environment has the last word on the former.

## Main definitions

* `Log`, `Log.ofConfig` — a log.
* `Log.install` — opens the log unless there is one.
* `Log.written` — the events that are written.
-/

namespace ConversionScheduler

/-- A log. -/
structure Log where
  filter : LogFilter
  format : LogFormat
  /-- Whether lines say where in the program they come from. -/
  location : Bool
deriving DecidableEq

namespace Log

/-- The log of a configuration. A filter that cannot be read does not count. -/
def ofConfig (c : LogConfig) (filter? : Option String) : Except Error Log := do
  c.validate.mapError fun f => .configuration (.other f.message)
  let own ← orFail (.configuration (.other ("日志过滤器无效: " ++ c.level))) (LogFilter.ofString? c.level)
  return ⟨(filter?.bind LogFilter.ofString?).getD own, c.format, c.includeLocation⟩

/-- Opens the log unless there is one. The result says whether it was opened. -/
def install (c : LogConfig) (filter? : Option String) (installed : Option Log) :
    Except Error Bool × Option Log :=
  match ofConfig c filter?, installed with
  | .error e, _ => (.error e, installed)
  | .ok _, some log => (.ok false, some log)
  | .ok log, none => (.ok true, some log)

/-- The event with which a log begins. -/
def opened (c : LogConfig) : Event where
  severity := .info
  target := "docsched_core::logging"
  message := "日志系统初始化完成"
  details := [("logging.format", c.format.title), ("logging.level", c.level)]

/-- The events that are written, out of those that occur. -/
def written (log : Log) (es : List Event) : List Event := es.filter log.filter.admits

end Log

end ConversionScheduler
