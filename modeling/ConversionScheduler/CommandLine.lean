import ConversionScheduler.Config.Loading
/-!
# The command line

## Main definitions

* `CommandLine` — what the program is asked to do.
* `CommandLine.ofArguments?` — reads the arguments.
* `CommandLine.versionText`, `CommandLine.helpText` — what the program says about itself.
-/

namespace ConversionScheduler

/-- An option that takes a value. -/
inductive Choice
  | config
  | logLevel
  | logFormat
deriving DecidableEq

/-- How the program is to be started. -/
structure Launch where
  path? : Option String := none
  overrides : Overrides := {}
deriving DecidableEq, Inhabited

/-- What the program is asked to do. -/
inductive CommandLine
  | launch (l : Launch)
  | help
  | version
deriving DecidableEq

namespace Choice

/-- The option with a long name. -/
def ofName? (name : String) : Option Choice :=
  if name = "config" then some .config
  else if name = "log-level" then some .logLevel
  else if name = "log-format" then some .logFormat
  else none

/-- The option with a letter. -/
def ofLetter? (c : Char) : Option Choice :=
  if c = 'c' then some .config else if c = 'l' then some .logLevel else none

/-- The values that an option may have, unless it may have any. -/
def values? : Choice → Option (List String)
  | .config => none
  | .logLevel => some logLevels
  | .logFormat => some ["json", "pretty"]

end Choice

namespace Launch

/-- The value that an option has been given. -/
def value? (l : Launch) : Choice → Option String
  | .config => l.path?
  | .logLevel => l.overrides.logLevel
  | .logFormat => l.overrides.logFormat

/-- Gives an option its value. -/
def set (l : Launch) (o : Choice) (v : String) : Launch :=
  match o with
  | .config => { l with path? := some v }
  | .logLevel => { l with overrides := { l.overrides with logLevel := some v } }
  | .logFormat => { l with overrides := { l.overrides with logFormat := some v } }

/-- Gives an option its value, if it may have it and has none yet. -/
def give? (l : Launch) (o : Choice) (v : String) : Option Launch :=
  let allowed := match o.values? with
    | none => true
    | some vs => vs.contains v
  if allowed && (l.value? o).isNone then some (l.set o v) else none

end Launch

namespace CommandLine

/-- What one argument says. -/
inductive Word
  | help
  | version
  /-- An option, with its value if that is in the same argument. -/
  | choice (o : Choice) (value? : Option String)

/-- Reads a long option. Its value follows an equals sign. -/
def longWord? (cs : List Char) : Option Word :=
  let name := String.ofList (cs.takeWhile (· ≠ '='))
  let value? := match cs.dropWhile (· ≠ '=') with
    | [] => none
    | _ :: rest => some (String.ofList rest)
  if name = "help" && value?.isNone then some .help
  else if name = "version" && value?.isNone then some .version
  else (Choice.ofName? name).map (.choice · value?)

/-- Reads a short option. Its value follows at once, or after an equals sign. -/
def shortWord? (c : Char) (rest : List Char) : Option Word :=
  if c = 'h' then some .help
  else if c = 'V' then some .version
  else
    let value? := match rest with
      | [] => none
      | '=' :: cs => some (String.ofList cs)
      | cs => some (String.ofList cs)
    (Choice.ofLetter? c).map (.choice · value?)

/-- Reads an argument. There are none but options. -/
def word? (s : String) : Option Word :=
  match s.toList with
  | '-' :: '-' :: cs => longWord? cs
  | '-' :: c :: cs => shortWord? c cs
  | _ => none

/-- Whether an argument can be the value of the option in front of it. -/
def isValue (s : String) : Bool := s = "-" || !s.startsWith "-"

/-- Reads arguments from left to right, after those that `l` comes from. -/
def ofArgumentsAfter? (l : Launch) : List String → Option CommandLine
  | [] => some (.launch l)
  | s :: rest =>
    if s = "--" then if rest.isEmpty then some (.launch l) else none
    else
      match word? s with
      | none => none
      | some .help => some .help
      | some .version => some .version
      | some (.choice o (some v)) => (l.give? o v).bind fun l' => ofArgumentsAfter? l' rest
      | some (.choice o none) =>
        match rest with
        | [] => none
        | v :: rest' =>
          if isValue v then (l.give? o v).bind fun l' => ofArgumentsAfter? l' rest' else none

/-- Reads the arguments, from left to right: who asks for help gets it, whatever follows. -/
def ofArguments? (arguments : List String) : Option CommandLine := ofArgumentsAfter? {} arguments

/-- The name and the version of the program. -/
def versionText : String := "docsched 1.0.0"

/-- How the program is used. -/
def helpText : String := "\n".intercalate [
  "文档转换任务调度系统",
  "",
  "Usage: docsched [OPTIONS]",
  "",
  "Options:",
  "  -c, --config <FILE>        配置文件路径，未指定时查找默认路径",
  "  -l, --log-level <LEVEL>    日志级别 [possible values: trace, debug, info, warn, error]",
  "      --log-format <FORMAT>  日志格式 [possible values: json, pretty]",
  "  -h, --help                 Print help",
  "  -V, --version              Print version"]

end CommandLine

end ConversionScheduler
