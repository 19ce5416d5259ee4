import LiveFlags.Url.Domain.ComposedTable

/-!
# Canonical composition

The composed form of a text: every composite character is taken apart, the marks after each character
are put in the order of their combining classes, and what can be composed is composed again, from left
to right. Two texts that read alike have one composed form. Hangul syllables are composed of letters by
arithmetic; all other composites are listed in a table.
-/
namespace LiveFlags.Url.Domain

/-- The canonical combining class of a code point. -/
def combiningClass (code : Nat) : Nat := ((combiningClasses.values? code).bind List.head?).getD 0

/-! ## Hangul syllables -/

/-- The first syllable. -/
def firstSyllable : Nat := 0xAC00

/-- The code point is a syllable. -/
def isSyllable (code : Nat) : Bool := firstSyllable ≤ code && code < firstSyllable + 19 * 21 * 28

/-- The letters of a syllable. -/
def lettersOf (code : Nat) : List Nat :=
  let index := code - firstSyllable
  let final := index % 28
  [0x1100 + index / (21 * 28), 0x1161 + index / 28 % 21] ++ if final = 0 then [] else [0x11A7 + final]

/-- The syllable of two letters, or of a syllable without a final letter and one. -/
def syllable? (first second : Nat) : Option Nat :=
  if 0x1100 ≤ first ∧ first < 0x1113 ∧ 0x1161 ≤ second ∧ second < 0x1176 then
    some (firstSyllable + ((first - 0x1100) * 21 + (second - 0x1161)) * 28)
  else if isSyllable first ∧ (first - firstSyllable) % 28 = 0 ∧ 0x11A7 < second ∧ second < 0x11C3 then
    some (first + (second - 0x11A7))
  else none

/-! ## Taking apart and composing -/

/-- A bound on how often the first part of a composite character is itself composite. -/
def deepestComposite : Nat := 4

/-- The parts of a code point, taken apart so many times at most. -/
def partsWithin : Nat → Nat → List Nat
  | 0, code => [code]
  | depth + 1, code =>
    if isSyllable code then lettersOf code
    else
      match composites.values? code with
      | some (first :: rest) => partsWithin depth first ++ rest
      | _ => [code]

/-- The parts of a code point. -/
def parts (code : Nat) : List Nat := partsWithin deepestComposite code

/-- The character composed of two. -/
def composite? (first second : Nat) : Option Nat :=
  (syllable? first second).orElse fun _ =>
    (composites.find? (·.values = [first, second])).map Text.Stretch.first

/-- Puts a mark behind those whose class is not greater, counted from the end. -/
def insertMark (mark : Nat) : List Nat → List Nat
  | [] => [mark]
  | last :: before =>
    if combiningClass mark < combiningClass last then last :: insertMark mark before
    else mark :: last :: before

/-- The code points in reverse, the marks among them in the order of their classes. -/
def orderMarks (codes : List Nat) : List Nat :=
  codes.foldl (fun reversed code =>
    if combiningClass code = 0 then code :: reversed else insertMark code reversed) []

/-- Composes what follows a character, where `kept` are the marks in reverse that stand between them
and cannot be composed with it. -/
def composeAfter (starter : Nat) (kept : List Nat) : List Nat → List Nat
  | [] => starter :: kept.reverse
  | code :: rest =>
    let isNext := kept.head?.all fun last => combiningClass last < combiningClass code
    match if isNext then composite? starter code else none with
    | some whole => composeAfter whole kept rest
    | none =>
      if combiningClass code = 0 then starter :: kept.reverse ++ composeAfter code [] rest
      else composeAfter starter (code :: kept) rest

/-- Composes code points; marks before the first character stay as they are. -/
def composeFrom : List Nat → List Nat
  | [] => []
  | code :: rest =>
    if combiningClass code = 0 then composeAfter code [] rest else code :: composeFrom rest

/-- The composed form of code points. -/
def composed (codes : List Nat) : List Nat := composeFrom (orderMarks (codes.flatMap parts)).reverse

end LiveFlags.Url.Domain
