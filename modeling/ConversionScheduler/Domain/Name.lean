import ConversionScheduler.Domain.Direction
import ConversionScheduler.Domain.Joiner
import ConversionScheduler.Domain.Mapping
import ConversionScheduler.Domain.Punycode
/-!
# Domain names

A domain name is sent in ASCII. Its characters are first brought into the form in which they count
and composed; then each label with a character outside ASCII is written in Punycode behind `xn--`.
A label that is written so already has to stand for one that could have been.

## Main definitions

* `Label`, `Label.ofChars?` — a label as it is meant and as it is sent.
* `toAscii?` — the form in which a domain name is sent.
-/

namespace ConversionScheduler.Domain

open Unicode

/-! ## Labels -/

/-- The parts of a text between the characters `sep`. -/
def splitAt (sep : Char) : List Char → List (List Char)
  | [] => [[]]
  | c :: rest =>
    if c = sep then [] :: splitAt sep rest
    else
      match splitAt sep rest with
      | [] => [[c]]
      | part :: parts => (c :: part) :: parts

/-- Whether a character may not stand in a domain name although it counts as itself. -/
def isForbidden (c : Char) : Bool :=
  c.toNat ≤ 0x20 || c.toNat = 0x7F ||
    ['%', '#', '/', ':', '<', '>', '?', '@', '[', '\\', ']', '^', '|'].contains c

/-- Whether all characters are ASCII. -/
def isAscii (cs : List Char) : Bool := cs.all (·.toNat < 0x80)

/-- The length of the longest Punycode that is read. -/
def maxCoded : Nat := 2000

/-- The length of the longest label that is put into Punycode. -/
def maxCodable : Nat := 1000

/-- A label of a domain name. -/
structure Label where
  /-- The characters that the label stands for. -/
  meant : List Char
  /-- The label as it is sent. -/
  sent : List Char
deriving DecidableEq, Inhabited

namespace Label

/-- Whether a label may begin with its first character, has its joiners in their places and is not
too long. -/
def isWellFormed (label : List Char) : Bool :=
  !label.head?.any (fun c => (Category.of c).isMark) && joinersFit label &&
    label.length ≤ maxCodable

/-- The label that Punycode stands for. -/
def decoded? (code : List Char) : Option (List Char) :=
  if code.isEmpty || code.getLast? = some '-' || maxCoded < code.length then none
  else
    (Punycode.decode? code).filter fun label =>
      label.all (fun c => isPlain c && !isForbidden c && c ≠ '.') && composed label = label &&
        isWellFormed label

/-- The label of characters in the form in which they count. -/
def ofChars? (cs : List Char) : Option Label :=
  match cs with
  | 'x' :: 'n' :: '-' :: '-' :: code =>
    if isAscii code then (decoded? code).map fun label => ⟨label, cs⟩ else none
  | _ =>
    if isAscii cs then some ⟨cs, cs⟩
    else if isWellFormed cs then some ⟨cs, 'x' :: 'n' :: '-' :: '-' :: Punycode.encode cs⟩
    else none

end Label

/-! ## Names -/

/-- The characters of a name in the form in which they count. -/
def normalized? (name : List Char) : Option (List Char) :=
  if isAscii name then some (name.map Char.toLower)
  else (name.mapM mapped?).map fun cs => composed cs.flatten

/-- The form in which a domain name is sent. -/
def toAscii? (name : List Char) : Option (List Char) := do
  let cs ← normalized? name
  if cs.any isForbidden then none
  else
    let labels ← (splitAt '.' cs).mapM Label.ofChars?
    if isMixed (labels.flatMap Label.meant) && !labels.all (keepsDirection ·.meant) then none
    else return ['.'].intercalate (labels.map Label.sent)

end ConversionScheduler.Domain
