import LiveFlags.Url.Domain.Composed
import LiveFlags.Url.Domain.LabelTable

/-!
# Rules for domain labels

Which labels may stand in a domain name. No label begins with a mark (`beginsWithMark`). A joiner that
does not show stands only where it makes a difference: after a mark that kills a vowel, or, if it
keeps characters apart, between two that would join (`joinersFit`). And in a name with letters
written from right to left every label reads in one direction (`directionFits`).
-/
namespace LiveFlags.Url.Domain

/-- The label begins with a mark. -/
def beginsWithMark (codes : List Nat) : Bool := codes.head?.any marks.contains

/-! ## Joiners -/

/-- The character that keeps its neighbours from joining. -/
def nonJoiner : Nat := 0x200C

/-- The character that makes its neighbours join. -/
def joiner : Nat := 0x200D

/-- The combining class of the marks that kill a vowel. -/
def vowelKillerClass : Nat := 9

/-- The nearest character, of those that joining does not pass over, belongs to the table. -/
def nearestJoins (table : Text.CodeTable) (codes : List Nat) : Bool :=
  (codes.dropWhile joinsThrough.contains).head?.any table.contains

/-- The joiners fit what stands before them, in reverse, and after them. -/
def joinersFitFrom (before : List Nat) : List Nat → Bool
  | [] => true
  | code :: after =>
    let afterKiller := before.head?.any (combiningClass · = vowelKillerClass)
    let between := nearestJoins joinsForward before && nearestJoins joinsBackward after
    let fits :=
      if code = nonJoiner then afterKiller || between
      else if code = joiner then afterKiller
      else true
    fits && joinersFitFrom (code :: before) after

/-- The joiners of a label stand where they make a difference. -/
def joinersFit (codes : List Nat) : Bool := joinersFitFrom [] codes

/-! ## Direction -/

/-- The part that a character plays in the direction of a label. -/
inductive Direction where
  /-- It is written from left to right. -/
  | left
  /-- It is written from right to left. -/
  | right
  /-- It is an Arabic digit. -/
  | arabicNumber
  /-- It is a European digit. -/
  | europeanNumber
  /-- It has no direction. -/
  | neutral
  /-- It is a mark without width. -/
  | mark
  deriving DecidableEq, Repr

/-- The part that a code point plays. -/
def direction (code : Nat) : Direction :=
  if nonspacingMarks.contains code then .mark
  else if rightToLeft.contains code then .right
  else if arabicNumbers.contains code then .arabicNumber
  else if europeanNumbers.contains code then .europeanNumber
  else if neutrals.contains code then .neutral
  else .left

/-- The label is written from right to left at some place. -/
def hasRightToLeft (codes : List Nat) : Bool :=
  codes.any fun code => direction code = .right || direction code = .arabicNumber

/-- The last part that is no mark. -/
def lastDirection? (directions : List Direction) : Option Direction :=
  (directions.reverse.dropWhile (· = .mark)).head?

/-- The parts are those of a label written from left to right. -/
def isLeftward (directions : List Direction) : Bool :=
  directions.all (fun part => part ≠ .right && part ≠ .arabicNumber)
    && (lastDirection? directions).any fun part => part = .left || part = .europeanNumber

/-- The parts are those of a label written from right to left. -/
def isRightward (directions : List Direction) : Bool :=
  directions.all (· ≠ .left)
    && (lastDirection? directions).any (fun part => part ≠ .neutral)
    && !(directions.contains .arabicNumber && directions.contains .europeanNumber)

/-- The label reads in one direction, which its first character tells. -/
def directionFits (codes : List Nat) : Bool :=
  let directions := codes.map direction
  match directions with
  | [] => true
  | .left :: _ => isLeftward directions
  | .right :: _ => isRightward directions
  | _ :: _ => false

end LiveFlags.Url.Domain
