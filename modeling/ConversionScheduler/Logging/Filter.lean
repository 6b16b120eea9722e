import ConversionScheduler.Logging.Event
import ConversionScheduler.Logging.Pattern
import ConversionScheduler.Settings.Number
/-!
# What is logged

A filter is written as directives with commas between them, such as
`info,scheduler=debug,scheduler::store[{id}]=trace`. The most specific directive that an event
comes under decides about it: the one with the longest target, and of these the one that asks for
the most fields. An event that comes under none is dropped.

## Main definitions

* `Threshold` — how much an event has to matter.
* `Directive`, `Directive.ofChars?` — one directive.
* `LogFilter`, `LogFilter.ofString?` — a whole filter.
* `LogFilter.admits` — whether an event passes.
-/

namespace ConversionScheduler

/-- The least severity that passes; none does if it is absent. -/
abbrev Threshold := Option Severity

namespace Threshold

/-- Whether a severity passes. -/
def admits (t : Threshold) (s : Severity) : Bool :=
  match t with
  | none => false
  | some least => s.digit ≤ least.digit

/-- The threshold of a digit. -/
def ofDigit? : Nat → Option Threshold
  | 0 => some none
  | 1 => some (some .error)
  | 2 => some (some .warn)
  | 3 => some (some .info)
  | 4 => some (some .debug)
  | 5 => some (some .trace)
  | _ => none

/-- The threshold of a word in lower case. -/
def ofWord? (w : String) : Option Threshold :=
  if w = "off" then some none
  else if w = "error" then some (some .error)
  else if w = "warn" then some (some .warn)
  else if w = "info" then some (some .info)
  else if w = "debug" then some (some .debug)
  else if w = "trace" then some (some .trace)
  else none

/-- The threshold of a digit or of a word in any case. -/
def ofChars? (cs : List Char) : Option Threshold :=
  match Plain.natural? cs with
  | some n => ofDigit? n
  | none => ofWord? (String.ofList (cs.map Plain.lower))

end Threshold

/-- A directive: the threshold for events from some target that have certain fields. -/
structure Directive where
  threshold : Threshold
  /-- What the event's target has to begin with. -/
  target : Option String
  fields : List String
deriving DecidableEq

namespace Directive

/-- Whether an event comes under a directive. -/
def covers (d : Directive) (e : Event) : Bool :=
  (match d.target with
    | none => true
    | some t => e.target.startsWith t) &&
  d.fields.all fun f => e.fields.any (·.1 = f)

/-- How far a directive narrows down the target. -/
def reach (d : Directive) : Nat :=
  match d.target with
  | none => 0
  | some t => t.utf8ByteSize + 1

/-- Whether `d` is at least as specific as `d'`, for two directives that cover the same event. -/
def outranks (d d' : Directive) : Bool :=
  if d.reach ≠ d'.reach then d'.reach < d.reach
  else if d.fields.length ≠ d'.fields.length then d'.fields.length < d.fields.length
  else !decide (d.fields < d'.fields)

/-! ## Reading

Blanks around a directive do not count for its parts, and where a part begins and ends is counted in
octets without the blanks in front. What the part says is then looked up by these numbers in the
directive with all its blanks. So the parts are cut off as one expects only if there are none. -/

/-- A directive as it is written, and without the blanks at its ends. -/
structure Source where
  whole : List Char
  trimmed : List Char

/-- A directive that is written in a text. -/
def Source.ofChars (cs : List Char) : Source :=
  ⟨cs, ((cs.dropWhile isBlank).reverse.dropWhile isBlank).reverse⟩

/-- The number of octets of a text. -/
def octets (cs : List Char) : Nat := cs.foldl (fun n c => n + c.utf8Size) 0

/-- Cuts a text behind a number of octets, unless they end within a character. -/
def cut? : Nat → List Char → Option (List Char × List Char)
  | 0, cs => some ([], cs)
  | _, [] => none
  | n, c :: cs =>
    if c.utf8Size ≤ n then (cut? (n - c.utf8Size) cs).map fun r => (c :: r.1, r.2) else none

/-- Where the rest of a directive begins. -/
def Source.position (s : Source) (rest : List Char) : Nat := octets s.trimmed - octets rest

/-- What is looked up from a rest of the directive on. -/
def Source.from? (s : Source) (rest : List Char) : Option (List Char) :=
  (cut? (s.position rest) s.whole).map (·.2)

/-- What is looked up between two rests of the directive. -/
def Source.part? (s : Source) (rest rest' : List Char) : Option (List Char) := do
  let cs ← s.from? rest
  let (part, _) ← cut? (octets rest - octets rest') cs
  return part

/-- What was read of a directive. Directives that name a span or the value of a field say nothing
about events outside of spans. -/
structure Draft where
  target : Option String := none
  namesSpan : Bool := false
  fields : List String := []
  namesValue : Bool := false

/-- The directive of a draft, unless it is about spans only. -/
def Draft.close (r : Draft) (t : Threshold) : Option Directive :=
  if r.namesSpan || r.namesValue then none else some ⟨t, r.target, r.fields⟩

/-- Whether a text can be the value of a field: a number or a pattern. -/
def isValue (cs : List Char) : Bool :=
  (Plain.natural? cs).isSome || (Plain.integer? cs).isSome || (Plain.float? cs).isSome ||
    Pattern.isReadable cs

/-- Adds a field, which may have a value behind an equals sign. A further equals sign and what
follows it do not count. -/
def Draft.withField? (r : Draft) (cs : List Char) : Option Draft :=
  let name := String.ofList (cs.takeWhile (· ≠ '='))
  match cs.dropWhile (· ≠ '=') with
  | [] => some { r with fields := [name] }
  | _ :: rest =>
    if isValue (rest.takeWhile (· ≠ '=')) then
      some { r with fields := [name], namesValue := true }
    else none

/-- Ends a directive with the threshold behind the equals sign. All events pass if there is none. -/
def ending? (s : Source) (r : Draft) : List Char → Option (Option Directive)
  | [] => some (r.close (some .trace))
  | '=' :: rest => do
    let word ← s.from? rest
    if word.isEmpty then return r.close (some .trace)
    else return r.close (← Threshold.ofChars? word)
  | _ => none

/-- Reads the part in brackets, from behind the opening one, and the rest. -/
def span? (s : Source) (r : Draft) (cs : List Char) : Option (Option Directive) :=
  let stops (c : Char) : Bool := c = ']' || c = '\x7b'
  match cs.dropWhile fun c => !stops c with
  | ']' :: rest => ending? s { r with namesSpan := true } rest
  | '\x7b' :: rest =>
    match rest.dropWhile (· ≠ '\x7d') with
    | '\x7d' :: ']' :: rest' => do
      let field ← s.part? rest ('\x7d' :: ']' :: rest')
      if field.isEmpty then none
      else ending? s (← { r with namesSpan := cs.head? ≠ some '\x7b' }.withField? field) rest'
    | _ => none
  | _ => none

/-- Whether a directive may begin with a character. -/
def mayBegin (c : Char) : Bool := c = '-' || c = ':' || c = '_' || Unicode.isAlphanumeric c

/-- Reads a directive. The result is empty if it is about spans only. -/
def read? (s : Source) : Option (Option Directive) :=
  match s.trimmed with
  | [] => none
  | '[' :: rest => span? s {} rest
  | c :: _ =>
    if !mayBegin c then none
    else
      let stops (c : Char) : Bool := c = '=' || c = '['
      match s.trimmed.dropWhile fun c => !stops c with
      | [] =>
        match Threshold.ofChars? s.whole with
        | some t => some (some ⟨t, none, []⟩)
        | none => some (some ⟨some .trace, some (String.ofList s.whole), []⟩)
      | rest => do
        let named : Draft := { target := some (String.ofList (← s.part? s.trimmed rest)) }
        if rest.head? = some '[' then span? s named (rest.drop 1) else ending? s named rest

/-- Reads the directive that is written in a text. -/
def ofChars? (cs : List Char) : Option (Option Directive) := read? (.ofChars cs)

end Directive

/-- A filter. -/
abbrev LogFilter := List Directive

namespace LogFilter

/-- Reads a filter. Empty directives are passed over. -/
def ofString? (s : String) : Option LogFilter := do
  let parts := (s.splitOn ",").filter (· ≠ "")
  let ds ← parts.mapM fun p => Directive.ofChars? p.toList
  return ds.filterMap id

/-- The directive that decides about an event. Of two that are equally specific the later one
counts. -/
def decisive? (f : LogFilter) (e : Event) : Option Directive :=
  (f.filter (·.covers e)).foldl (fun best d =>
    match best with
    | none => some d
    | some b => if d.outranks b then some d else some b) none

/-- Whether an event passes. -/
def admits (f : LogFilter) (e : Event) : Bool :=
  match f.decisive? e with
  | none => false
  | some d => d.threshold.admits e.severity

end LogFilter

end ConversionScheduler
