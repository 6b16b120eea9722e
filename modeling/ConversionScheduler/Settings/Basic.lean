import ConversionScheduler.Settings.Number
import ConversionScheduler.Text.Lowercase
/-!
# Layers of settings

Settings come in layers: a file, and above it the variables of the environment. A layer gives
values to paths such as `redis.url` or `workers[0].id`; what lies on the way is made if it is
missing, and gives way if it is something else. A group that is laid over a group adds to it,
anything else takes the place of what was there.

## Main definitions

* `Setting` — a value or a group of settings.
* `Setting.onto` — one setting laid over another.
* `Setting.Step`, `Setting.path?` — a path into settings.
* `Setting.lay` — a layer laid over settings.
-/

namespace ConversionScheduler

/-- A setting. -/
inductive Setting
  /-- A place that was made on the way to another one. -/
  | blank
  | text (s : String)
  | integer (n : Int)
  | float (d : Double)
  | boolean (b : Bool)
  | list (items : List Setting)
  | group (members : List (String × Setting))
deriving Inhabited

namespace Setting

/-! ## Groups and lists -/

/-- The members of a group; nothing else has any. -/
def members : Setting → List (String × Setting)
  | .group ms => ms
  | _ => []

/-- The items of a list; nothing else has any. -/
def items : Setting → List Setting
  | .list ss => ss
  | _ => []

/-- Gives a value to a key, at its place or behind the others. -/
def put (k : String) (s : Setting) : List (String × Setting) → List (String × Setting)
  | [] => [(k, s)]
  | m :: rest => if m.1 = k then (k, s) :: rest else m :: put k s rest

/-- The setting of a key. -/
def member (k : String) (ms : List (String × Setting)) : Setting := (ms.lookup k).getD .blank

/-! ## Laying one over another -/

mutual

/-- Lays a setting over an older one. -/
def onto : Setting → Setting → Setting
  | .group ms, old => .group (membersOnto ms old.members)
  | s, _ => s

/-- Lays the members of a group over older ones. -/
def membersOnto : List (String × Setting) → List (String × Setting) → List (String × Setting)
  | [], old => old
  | (k, s) :: rest, old => membersOnto rest (put k (onto s (member k old)) old)

end

/-! ## Paths -/

/-- A step of a path: to a member, or to an item, which is counted from the end if negative. -/
inductive Step
  | key (k : String)
  | index (i : Int)
deriving DecidableEq

/-- Whether a character may stand in a key of a path. -/
def isKeyChar (c : Char) : Bool :=
  Decimal.isDigit c || ('a' ≤ c && c ≤ 'z') || ('A' ≤ c && c ≤ 'Z') || c = '_' || c = '-'

/-- A key and what follows it. -/
def takeKey? (cs : List Char) : Option (String × List Char) :=
  let k := cs.takeWhile isKeyChar
  if k.isEmpty then none else some (String.ofList k, cs.dropWhile isKeyChar)

/-- Drops blanks. -/
def dropBlanks (cs : List Char) : List Char := cs.dropWhile fun c => c = ' ' || c = '\t'

/-- An index behind its bracket, up to behind the closing one. -/
def takeIndex? (cs : List Char) : Option (Int × List Char) :=
  let (negative, rest) := match dropBlanks cs with
    | '-' :: rest => (true, rest)
    | rest => (false, rest)
  let (ds, rest) := Decimal.takeDigits rest
  let n : Int := Decimal.ofDigits ds
  let i := if negative then -n else n
  match dropBlanks rest with
  | ']' :: rest => if ds.isEmpty || !Plain.inRange i then none else some (i, rest)
  | _ => none

/-- The steps behind the first key. `fuel` bounds their number. -/
def steps? : Nat → List Char → Option (List Step)
  | _, [] => some []
  | 0, _ => none
  | fuel + 1, c :: rest =>
    if c = '.' then do
      let (k, rest) ← takeKey? rest
      return .key k :: (← steps? fuel rest)
    else if c = '[' then do
      let (i, rest) ← takeIndex? rest
      return .index i :: (← steps? fuel rest)
    else none

/-- A path: a key, then keys behind dots and indices in brackets. -/
def path? (s : String) : Option (List Step) := do
  let (k, rest) ← takeKey? s.toList
  return .key k :: (← steps? rest.length rest)

/-- The path of a name. A name that is none is a key as a whole. -/
def pathOf (s : String) : List Step := (path? s).getD [.key s]

/-- Changes an item of a list, which is made long enough for it: at the end, or in front for an
index that counts from the end. -/
def atIndex (f : Setting → Setting) (i : Int) (ss : List Setting) : List Setting :=
  let blanks (n : Nat) : List Setting := List.replicate n .blank
  if 0 ≤ i then (ss ++ blanks (i.toNat + 1 - ss.length)).modify i.toNat f
  else if i.natAbs ≤ ss.length then ss.modify (ss.length - i.natAbs) f
  else (blanks (i.natAbs - ss.length) ++ ss).modify 0 f

/-- Changes the setting that a path leads to. -/
def along (f : Setting → Setting) : List Step → Setting → Setting
  | [], s => f s
  | .key k :: rest, s => .group (put k (along f rest (member k s.members)) s.members)
  | .index i :: rest, s => .list (atIndex (along f rest) i s.items)

/-- Lays a layer over settings: each of its values over what its path leads to. -/
def lay (layer : List (String × Setting)) (s : Setting) : Setting :=
  layer.foldl (fun s m => along (onto m.2) (pathOf m.1) s) s

end Setting

end ConversionScheduler
