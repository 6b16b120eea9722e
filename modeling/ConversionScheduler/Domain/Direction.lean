import ConversionScheduler.Unicode.Category
/-!
# Directions of writing

Where a domain name has a letter that is written from right to left, each of its labels has to be
of one direction, or the name could be shown like another one.

## Main definitions

* `Direction`, `Direction.of` — the directions, and the direction of a character.
* `isMixed` — whether a name has letters that are written from right to left.
* `keepsDirection` — whether a label is of one direction.
-/

namespace ConversionScheduler.Domain

open Unicode

/-- The directions that characters have. -/
inductive Direction
  | leftToRight
  | rightToLeft
  | arabicLetter
  | arabicNumber
  | europeanNumber
  | europeanSeparator
  | commonSeparator
  | europeanTerminator
  | otherNeutral
  | boundaryNeutral
  | nonspacingMark
deriving DecidableEq, Inhabited

/-- The characters of domain names that are not written from left to right. The runs may go over
characters that do not count as themselves. -/
def directions : List (Direction × Runs) := [
  (.rightToLeft, Runs.ofText
    "5BE 5C0 5C3 5C6 5D0-5F4 7C0-7EA 7F4-7F5 7FA 7FE-815 81A 824 828 830-858 85E 10800-1091B
    10920-10A00 10A10-10A35 10A40-10AE4 10AEB-10B35 10B40-10CFF 10D40-10D4F 10D6F-10D8F
    10E80-10EA9 10EAD-10EB1 10F00-10F27 10F70-10F81 10F86-10FF6 1E800-1E8CF 1E922-1E943
    1E94B-1E95F"),
  (.arabicLetter, Runs.ofText
    "608 60B 60D 61B-64A 66D-66F 671-6D5 6E5-6E6 6EE-6EF 6FA-710 712-72F 74D-7A5 7B1 860-88F
    8A0-8C9 FBB2-FBC2 FE73 10D00-10D23 10EC2-10EC7 10F30-10F45 10F51-10F59 1EC71-1ED3D"),
  (.arabicNumber, Runs.ofText "660-669 66B-66C 10D30-10D39 10E60-10E7E"),
  (.europeanNumber, Runs.ofText "30-39 6F0-6F9 102E1-102FB"),
  (.europeanSeparator, Runs.ofText "2B 2D 2212"),
  (.commonSeparator, Runs.ofText "2C 2E-2F 3A 60C 2044"),
  (.europeanTerminator, Runs.ofText
    "23-25 A2-A5 B0-B1 58F 609-60A 66A 9F2-9F3 9FB AF1 BF9 E3F 17DB 2030-2032 20A0-20C1 212E
    2213 A838-A839 11FDD-11FE0 1E2FF"),
  (.otherNeutral, Runs.ofText
    "21-22 26-2A 3B-60 7B-7E A1 A6-AE B6-D7 F7 2B9-2BA 2C2-2CF 2D2-2ED 2EF-2FF 375 3F6 58A-58E
    606-607 60E-60F 6DE 6E9 7F6-7F9 BF3-BF8 BFA C78-C7E F3A-F3D 1390-1399 1400 169B-169C
    17F0-180A 1940-1945 19DE-19FF 2010-2027 2035-2043 2045-205E 2104-2129 213A-214D 218A-2211
    2214-2335 237B-2394 2396-26AB 26AD-27FF 2900-2BFF 2CE5-2CEA 2CF9-2CFF 2E00-3004 3008-3020
    3030 3037 303D-303F 30A0 30FB 31C0-31E5 4DC0-4DFF A490-A4C6 A60D-A60F A673 A67E-A67F
    A700-A721 A788 A828-A82B A874-A877 AB6A-AB6B FBC3-FDFF FE45-FE46 10101 10140-1018C
    10190-101A0 1091F 10B39-10B3F 10D6E 10ED0-10ED8 11052-11065 11660-1166C 11FD5-11FDC
    11FE1-11FF1 16FE2 1CC00-1CEF0 1D1E9-1D241 1D245 1D300-1D356 1EEF0-1F12F 1F16D-1F16F 1F1AD
    1F260-1FBFA"),
  (.boundaryNeutral, Runs.ofText "200C-200D")]

/-- Marks that are written from left to right. -/
def plainMarks : Runs := Runs.ofText "CBF CC6 11A07-11A08 11C3F"

/-- The direction of a character that may stand in a domain name. -/
def Direction.of (c : Char) : Direction :=
  if c.isAlpha then .leftToRight
  else
    match directions.find? (·.2.contains c) with
    | some d => d.1
    | none =>
      if [Category.nonspacingMark, .enclosingMark].contains (.of c) && !plainMarks.contains c then
        .nonspacingMark
      else .leftToRight

/-- Whether some character of a name is written from right to left. -/
def isMixed (name : List Char) : Bool :=
  name.any fun c => [Direction.rightToLeft, .arabicLetter, .arabicNumber].contains (.of c)

/-- The directions that may follow one another in any label. -/
def anywhere : List Direction :=
  [.europeanNumber, .europeanSeparator, .commonSeparator, .europeanTerminator, .otherNeutral,
    .boundaryNeutral, .nonspacingMark]

/-- Whether a label that begins from left to right goes on so. `ds` are the directions behind the
first, and `ending` are these without the marks at the end, backwards. -/
def goesRight (ds ending : List Direction) : Bool :=
  ds.all (.leftToRight :: anywhere).contains &&
    ending.head?.all [Direction.leftToRight, .europeanNumber].contains

/-- Whether a label that begins from right to left goes on so. Its numbers have to be of one
kind. -/
def goesLeft (ds ending : List Direction) : Bool :=
  ds.all (.rightToLeft :: .arabicLetter :: .arabicNumber :: anywhere).contains &&
    ending.head?.all
      [Direction.rightToLeft, .arabicLetter, .europeanNumber, .arabicNumber].contains &&
    !(ds.contains .europeanNumber && ds.contains .arabicNumber)

/-- Whether a label of a mixed name is of one direction. -/
def keepsDirection (label : List Char) : Bool :=
  match label.map Direction.of with
  | [] => true
  | d :: ds =>
    let ending := ds.reverse.dropWhile (· = .nonspacingMark)
    match d with
    | .leftToRight => goesRight ds ending
    | .rightToLeft | .arabicLetter => goesLeft ds ending
    | _ => false

end ConversionScheduler.Domain
