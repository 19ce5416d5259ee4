/-!
# Punycode

Code points written in letters, digits and hyphens. The plain code points come first, in their order,
before a hyphen if there are any; then, for each other code point in increasing order and from left to
right, how many steps lie between it and the one before, where a step is one place further and, past
the last place, the next code point. The steps are written least digit first in base 36 with a
threshold for each digit, below which the digit is the last; the thresholds follow a bias that adapts
to the numbers written so far.
-/
namespace LiveFlags.Url.Punycode

/-- The first code point that is not plain. -/
def firstCode : Nat := 128

/-- The bias before any number has been written. -/
def firstBias : Nat := 72

/-- The threshold of the digit at a place, counted in steps of 36. -/
def threshold (place bias : Nat) : Nat := max 1 (min 26 (place - bias))

/-- A threshold is positive. -/
theorem threshold_pos (place bias : Nat) : 0 < threshold place bias := by
  simp only [threshold]; omega

/-- Cuts a number down by 35 until it is small, and counts the cuts in steps of 36. -/
def damp (delta steps : Nat) : Nat × Nat :=
  if 455 < delta then damp (delta / 35) (steps + 36) else (delta, steps)
termination_by delta
decreasing_by exact Nat.div_lt_self (by omega) (by decide)

/-- The bias after a number, given how many code points there are now. -/
def adapt (delta count : Nat) (isFirst : Bool) : Nat :=
  let halved := if isFirst then delta / 700 else delta / 2
  let (rest, steps) := damp (halved + halved / count) 0
  steps + 36 * rest / (rest + 38)

/-- A digit: a letter from zero to 25, a decimal digit above. -/
def digitChar (digit : Nat) : Char :=
  Char.ofNat (if digit < 26 then 'a'.toNat + digit else '0'.toNat + (digit - 26))

/-- The value of a digit. -/
def digitValue? (c : Char) : Option Nat :=
  if 'a' ≤ c ∧ c ≤ 'z' then some (c.toNat - 'a'.toNat)
  else if 'A' ≤ c ∧ c ≤ 'Z' then some (c.toNat - 'A'.toNat)
  else if '0' ≤ c ∧ c ≤ '9' then some (c.toNat - '0'.toNat + 26)
  else none

/-- The digits of a number from a place on. -/
def digits (bias place number : Nat) : List Char :=
  let limit := threshold place bias
  if number < limit then [digitChar number]
  else
    digitChar (limit + (number - limit) % (36 - limit))
      :: digits bias (place + 36) ((number - limit) / (36 - limit))
termination_by number
decreasing_by
  have positive := threshold_pos place bias
  exact Nat.lt_of_le_of_lt (Nat.div_le_self _ _) (by omega)

/-- The state of writing. -/
structure Writing where
  /-- The steps since the last number. -/
  delta : Nat
  /-- The bias. -/
  bias : Nat
  /-- How many code points have been written. -/
  count : Nat
  /-- Whether no number has been written. -/
  isFirst : Bool
  /-- The digits written. -/
  output : List Char

/-- Writes the places of one code point. -/
def writeCode (codes : List Nat) (writing : Writing) (code : Nat) : Writing :=
  codes.foldl (fun writing other =>
    if other < code then { writing with delta := writing.delta + 1 }
    else if other = code then
      ⟨0, adapt writing.delta (writing.count + 1) writing.isFirst, writing.count + 1, false,
        writing.output ++ digits writing.bias 36 writing.delta⟩
    else writing) writing

/-- Writes the code points given, which increase, where `next` is the one after the last written. -/
def writeCodes (codes : List Nat) (writing : Writing) (next : Nat) : List Nat → Writing
  | [] => writing
  | code :: rest =>
    let reached := { writing with delta := writing.delta + (code - next) * (writing.count + 1) }
    let written := writeCode codes reached code
    writeCodes codes { written with delta := written.delta + 1 } (code + 1) rest

/-- Writes code points. -/
def encode (codes : List Nat) : List Char :=
  let plain := codes.filter (· < firstCode)
  let others := ((codes.filter (firstCode ≤ ·)).mergeSort (· ≤ ·)).eraseReps
  let start : Writing := ⟨0, firstBias, plain.length, true, []⟩
  plain.map Char.ofNat ++ (if plain.isEmpty then [] else ['-'])
    ++ (writeCodes codes start firstCode others).output

/-- Reads the digits of one number from a place on: the number, and what follows. -/
def readNumber (bias place weight number : Nat) : List Char → Option (Nat × List Char)
  | [] => none
  | c :: rest => do
    let digit ← digitValue? c
    let limit := threshold place bias
    let number := number + digit * weight
    if digit < limit then some (number, rest)
    else readNumber bias (place + 36) (weight * (36 - limit)) number rest

/-- A number takes at least one digit. -/
theorem length_readNumber {bias place weight number : Nat} {chars rest : List Char} {value : Nat}
    (h : readNumber bias place weight number chars = some (value, rest)) :
    rest.length < chars.length := by
  induction chars generalizing place weight number with
  | nil => simp [readNumber] at h
  | cons c others ih =>
    simp only [readNumber] at h
    cases hd : digitValue? c with
    | none => simp [hd] at h
    | some digit =>
      simp only [hd, Option.bind_eq_bind, Option.bind_some] at h
      split at h
      · simp only [Option.some.injEq, Prod.mk.injEq] at h
        simp [← h.2]
      · exact Nat.lt_succ_of_lt (ih h)

/-- The code point is one of a character. -/
def isScalar (code : Nat) : Bool := code < 0xD800 || (0xDFFF < code && code < 0x110000)

/-- Reads numbers and puts their code points in place. -/
def readCodes (codes : List Nat) (next position bias : Nat) (isFirst : Bool) (chars : List Char) :
    Option (List Nat) :=
  match chars with
  | [] => some codes
  | c :: others =>
    match h : readNumber bias 36 1 0 (c :: others) with
    | none => none
    | some (delta, rest) =>
      let count := codes.length + 1
      let steps := position + delta
      let code := next + steps / count
      let place := steps % count
      if isScalar code then
        readCodes (codes.take place ++ code :: codes.drop place) code (place + 1)
          (adapt delta count isFirst) false rest
      else none
termination_by chars.length
decreasing_by exact length_readNumber h

/-- Reads what has been written; none if it is no such text. -/
def decode? (chars : List Char) : Option (List Nat) :=
  let tail := (chars.reverse.takeWhile (· ≠ '-')).reverse
  let plain := chars.take (chars.length - tail.length - 1)
  let others := if plain.isEmpty then chars else tail
  if plain.all (·.toNat < firstCode) then
    readCodes (plain.map Char.toNat) firstCode 0 firstBias true others
  else none

end LiveFlags.Url.Punycode
