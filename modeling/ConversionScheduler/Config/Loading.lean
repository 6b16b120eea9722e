import ConversionScheduler.Config.Validity
import ConversionScheduler.Settings.Dialect
import ConversionScheduler.Settings.Source
import ConversionScheduler.Toml.Dialect
/-!
# Loading the configuration

A configuration is written as a TOML document, or comes from layers of settings: the defaults, then
a file, then the environment. At the start of the program a few of its values may be overridden.

## Main definitions

* `LoadFault`, `StartFault` — why there is no configuration, and how that is reported.
* `Config.ofToml` — the configuration of a document.
* `Config.load` — the configuration of a file and the environment.
* `Config.forStart` — the configuration with which the program starts.
-/

namespace ConversionScheduler

/-- What is at a path. -/
inductive Found
  | absent
  | directory
  | file (text : String)
deriving DecidableEq, Inhabited

/-- Why a configuration could not be loaded. -/
inductive LoadFault
  /-- A document does not describe a configuration. -/
  | malformed
  | noFile (path : String)
  /-- A layer of settings could not be read. -/
  | unreadable
  /-- The settings do not describe a configuration. -/
  | undecodable
  | invalid (fault : ConfigFault)
deriving DecidableEq

/-- The messages of a fault, the outermost first. What the reader of the notation had to say is
`detail`. -/
def LoadFault.chain (detail : String) : LoadFault → List String
  | .malformed => ["解析TOML配置失败", detail]
  | .noFile path => ["配置文件不存在: " ++ path]
  | .unreadable => ["构建配置失败", detail]
  | .undecodable => ["反序列化配置失败", detail]
  | .invalid f => f.chain

/-- Fails with `e` where there is nothing. -/
def orFail {ε α : Type} (e : ε) : Option α → Except ε α
  | some a => .ok a
  | none => .error e

namespace Config

/-- A configuration that has passed the check. -/
def checked (c : Config) : Except LoadFault Config := do
  c.validate.mapError .invalid
  return c

/-- The configuration of a document. -/
def ofToml (text : String) : Except LoadFault Config := do
  (← orFail .malformed (Toml.decode? (Config.read? Toml.Value.dialect) text)).checked

/-! ## Files and the environment -/

/-- Where the configuration is looked for if no path is given. -/
def defaultPaths : List String :=
  ["config/docsched.toml", "docsched.toml", "/etc/docsched/config.toml"]

/-- The path of the file, if there is one. A path that is given has to lead somewhere. -/
def source (files : String → Found) : Option String → Except LoadFault (Option String)
  | some path => if files path = .absent then .error (.noFile path) else .ok (some path)
  | none => .ok (defaultPaths.find? fun p => files p ≠ .absent)

/-- A path without what stands for the place where it is: slashes and dots at its end. -/
def plainParts (path : String) : List String :=
  ((path.splitOn "/").reverse.dropWhile fun part => part = "" || part = ".").reverse

/-- Whether a name has an extension: a dot that does not come first. -/
def hasExtension (name : String) : Bool := (name.toList.drop 1).contains '.'

/-- The file that is read in place of a directory. It lies beside it, unless the path of the
directory ends in a slash and its name in an extension. -/
def standIn? (path : String) : Option String :=
  match (plainParts path).getLast? with
  | none => none
  | some name =>
    if name = ".." then none
    else if !hasExtension name then some ("/".intercalate (plainParts path) ++ ".toml")
    else if path.endsWith "/" then some (path ++ ".placeholder.toml")
    else some (path ++ ".toml")

/-- All paths that may be looked at. -/
def candidates (path? : Option String) : List String :=
  let paths := (path?.map ([·])).getD defaultPaths
  paths ++ paths.filterMap standIn?

/-- The text of a file. A mark of the byte order in front does not count. -/
def fileText? : Found → Option String
  | .file text => some (if text.startsWith "\uFEFF" then (text.drop 1).toString else text)
  | _ => none

/-- The text that is read for a path. -/
def text? (files : String → Found) (path : String) : Option String :=
  match files path with
  | .directory => (standIn? path).bind fun p => fileText? (files p)
  | found => fileText? found

/-- The configuration of the defaults, a file, and the variables of the environment. -/
def load (files : String → Found) (environment : List (String × String)) (path? : Option String) :
    Except LoadFault Config := do
  let layer ← match ← source files path? with
    | none => pure []
    | some path => orFail .unreadable ((text? files path).bind Setting.ofDocument?)
  let settings := Setting.lay (Setting.ofEnvironment environment) (Setting.lay layer (.group []))
  (← orFail .undecodable (Config.read? Setting.dialect settings)).checked

end Config

/-! ## The start of the program -/

/-- What the command line has to say about the log. -/
structure Overrides where
  logLevel : Option String := none
  logFormat : Option String := none
deriving DecidableEq, Inhabited

/-- Why the program has no configuration to start with. -/
inductive StartFault
  | unloaded (path? : Option String) (fault : LoadFault)
  | unknownFormat (word : String)
  | invalid (fault : ConfigFault)
deriving DecidableEq

/-- The messages of a fault, the outermost first. -/
def StartFault.chain (detail : String) : StartFault → List String
  | .unloaded path? f => ("加载配置失败: " ++ path?.getD "<默认路径>") :: f.chain detail
  | .unknownFormat word => ["无效的日志格式: " ++ word]
  | .invalid f => f.chain

/-- The form of log lines that a word names, in any case. -/
def LogFormat.named (s : String) : Except StartFault LogFormat :=
  let w := lowerCase s
  if w = "json" then .ok .json
  else if w = "pretty" then .ok .pretty
  else .error (.unknownFormat w)

namespace Config

/-- A configuration with some of its values replaced. -/
def overridden (c : Config) (o : Overrides) : Except StartFault Config := do
  let format ← match o.logFormat with
    | none => pure c.logging.format
    | some s => LogFormat.named s
  return { c with
    logging := { c.logging with level := o.logLevel.getD c.logging.level, format := format } }

/-- The configuration with which the program starts. It is checked once more after values have been
replaced. -/
def forStart (files : String → Found) (environment : List (String × String)) (path? : Option String)
    (o : Overrides) : Except StartFault Config := do
  let c ← ((load files environment path?).mapError (.unloaded path?)).bind fun c => c.overridden o
  c.validate.mapError .invalid
  return c

end Config

end ConversionScheduler
