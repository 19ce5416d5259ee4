import LiveFlags.Json.Printer
import LiveFlags.Json.Record

/-!
# Reading texts and numbers back

A text is read back from its string, escapes and all (`stringRest_printed`), and a whole number of 64 bits
from its digits (`numberTail_toDigits`). A number ends where its characters end: what can follow a value
(`Delimited`) is left over when the number before it is read (`numberTail_append`).
-/
namespace LiveFlags.Json

/-- The characters of two texts are those of the first, and then those of the second. -/
theorem Input.ofText_append (left right : String) :
    Input.ofText (left ++ right) = Input.ofText left ++ Input.ofText right := by
  rw [Input.ofText, String.toList_append, List.map_append]
  rfl

/-- A control character is read back from its escape. -/
theorem hexUnit?_of_control {code : Nat} (control : code < 0x20) :
    hexUnit? (some '0') (some '0') (some (hexDigit (code / 16))) (some (hexDigit code)) = some code := by
  revert code
  decide

/-- A character that needs no escape is read as itself. -/
theorem stringRest_plain {c : Char} (quote : c ≠ '"') (escape : c ≠ '\\') (plain : ¬c.toNat < 0x20)
    (read : List Char) (rest : Input) : stringRest read (some c :: rest) = stringRest (c :: read) rest := by
  rw [stringRest, if_neg]
  · exact not_or.mpr ⟨escape, plain⟩
  · exact quote
  · intros
    contradiction
  · intros
    contradiction

/-- A character inside a string is read back from its form. -/
theorem stringRest_stringChar (c : Char) (read : List Char) (rest : Input) :
    stringRest read ((stringChar c).map some ++ rest) = stringRest (c :: read) rest := by
  unfold stringChar
  split
  · rfl
  · rfl
  · rfl
  · rfl
  · rfl
  · rfl
  · rfl
  · rename_i quote backslash _ _ _ _ _
    split
    · rename_i control
      have unit := hexUnit?_of_control control
      simp only [List.map_cons, List.map_nil, List.cons_append, List.nil_append]
      rw [stringRest, unit]
      dsimp only
      rw [if_pos (by omega), Char.ofNat_toNat]
    · rename_i plain
      exact stringRest_plain quote backslash plain read rest

/-- A text is read back from behind the opening quote of its string. -/
theorem stringRest_printed (chars read : List Char) (rest : Input) :
    stringRest read ((chars.flatMap stringChar).map some ++ some '"' :: rest) =
      .ok (String.ofList (read.reverse ++ chars), rest) := by
  induction chars generalizing read with
  | nil => simp [stringRest]
  | cons c chars ih =>
    rw [List.flatMap_cons, List.map_append, List.append_assoc, stringRest_stringChar, ih, List.reverse_cons,
      List.append_assoc]
    rfl

/-- What may follow a value: nothing, a comma, or the end of an array or of an object. -/
def Delimited (rest : Input) : Prop :=
  ∀ symbol ∈ rest.head?, symbol = some ',' ∨ symbol = some ']' ∨ symbol = some '\x7d'

/-- The digits in front of something else are the digits without it. -/
theorem spanDigits_append {rest : Input} (delimited : Delimited rest) (text : Input) :
    spanDigits (text ++ rest) = ((spanDigits text).1, (spanDigits text).2 ++ rest) := by
  induction text with
  | nil =>
    cases rest with
    | nil => rfl
    | cons symbol rest =>
      have none : digit? symbol = none := by
        rcases delimited symbol rfl with rfl | rfl | rfl <;> rfl
      show spanDigits (symbol :: rest) = ([], symbol :: rest)
      rw [spanDigits, none]
  | cons symbol text ih =>
    rw [List.cons_append, spanDigits, spanDigits]
    cases digit? symbol with
    | none => rfl
    | some digit => simp only [ih]

/-- The digits after the point at the front of the input, if there is one, and what follows. -/
def fractionPart : Input → Option (List Nat) × Input
  | some '.' :: rest => (some (spanDigits rest).1, (spanDigits rest).2)
  | rest => (none, rest)

/-- The sign at the front of the input and what follows it; without a sign the number is not negative. -/
def signPart : Input → Bool × Input
  | some '+' :: rest => (false, rest)
  | some '-' :: rest => (true, rest)
  | rest => (false, rest)

/-- The power of ten at the front of the input, if there is one, and what follows. -/
def exponentPart : Input → Option (Bool × List Nat) × Input
  | some letter :: rest =>
    if letter = 'e' ∨ letter = 'E' then
      (some ((signPart rest).1, (spanDigits (signPart rest).2).1), (spanDigits (signPart rest).2).2)
    else (none, some letter :: rest)
  | rest => (none, rest)

/-- A power of ten is a letter, a sign if there is one, and digits. -/
theorem exponentPart_eq (rest : Input) :
    exponentPart rest = match rest with
      | some letter :: after =>
        if letter = 'e' ∨ letter = 'E' then
          let (negative, digits) := match after with
            | some '+' :: digits => (false, digits)
            | some '-' :: digits => (true, digits)
            | digits => (false, digits)
          let (digits, rest) := spanDigits digits
          (some (negative, digits), rest)
        else (none, rest)
      | rest => (none, rest) := by
  unfold exponentPart
  split
  · rfl
  · rfl

/-- A number is read in three parts. -/
theorem numberText_eq (negative : Bool) (input : Input) :
    numberText negative input =
      let whole := spanDigits input
      let fraction := fractionPart whole.2
      let exponent := exponentPart fraction.2
      if whole.1.isEmpty || (whole.1.head? = some 0 && 1 < whole.1.length) then .error .malformed
      else if fraction.1 = some [] then .error .malformed
      else if exponent.1.any (·.2.isEmpty) then .error .malformed
      else .ok (⟨negative, whole.1, fraction.1, exponent.1⟩, exponent.2) := by
  unfold numberText
  simp only [exponentPart_eq]
  rfl

/-- The first character of what follows a value belongs to no number. -/
theorem Delimited.head {symbol : Option Char} {rest : Input} (delimited : Delimited (symbol :: rest)) :
    symbol ≠ some '.' ∧ symbol ≠ some 'e' ∧ symbol ≠ some 'E' ∧ symbol ≠ some '+' ∧ symbol ≠ some '-' := by
  rcases delimited symbol rfl with rfl | rfl | rfl <;> decide

variable {rest : Input}

/-- What follows a value is left over behind a fraction. -/
theorem fractionPart_append (delimited : Delimited rest) (text : Input) :
    fractionPart (text ++ rest) = ((fractionPart text).1, (fractionPart text).2 ++ rest) := by
  cases text with
  | nil =>
    show fractionPart rest = (none, rest)
    unfold fractionPart
    split
    · exact absurd rfl delimited.head.1
    · rfl
  | cons symbol text =>
    rw [List.cons_append]
    unfold fractionPart
    split
    · rename_i same
      obtain ⟨rfl, rfl⟩ := List.cons.inj same
      simp only [spanDigits_append delimited]
    · rename_i other
      split
      · rename_i same
        obtain ⟨rfl, rfl⟩ := List.cons.inj same
        exact absurd rfl (other _)
      · rfl

/-- What follows a value is left over behind a sign. -/
theorem signPart_append (delimited : Delimited rest) (text : Input) :
    signPart (text ++ rest) = ((signPart text).1, (signPart text).2 ++ rest) := by
  cases text with
  | nil =>
    show signPart rest = (false, rest)
    unfold signPart
    split
    · exact absurd rfl delimited.head.2.2.2.1
    · exact absurd rfl delimited.head.2.2.2.2
    · rfl
  | cons symbol text =>
    rw [List.cons_append]
    by_cases plus : symbol = some '+'
    · rw [plus, signPart, signPart]
    by_cases minus : symbol = some '-'
    · rw [minus, signPart, signPart]
    rw [signPart, signPart]
    all_goals simp_all

/-- What follows a value is left over behind a power of ten. -/
theorem exponentPart_append (delimited : Delimited rest) (text : Input) :
    exponentPart (text ++ rest) = ((exponentPart text).1, (exponentPart text).2 ++ rest) := by
  cases text with
  | nil =>
    show exponentPart rest = (none, rest)
    unfold exponentPart
    split
    · rename_i letter _
      rw [if_neg]
      rintro (rfl | rfl)
      · exact delimited.head.2.1 rfl
      · exact delimited.head.2.2.1 rfl
    · rfl
  | cons symbol text =>
    rw [List.cons_append]
    cases symbol with
    | none => rfl
    | some letter =>
      rw [exponentPart, exponentPart]
      split
      · simp only [signPart_append delimited, spanDigits_append delimited]
      · rfl

/-- What follows a number is left over when the number is read as it is written. -/
theorem numberText_append (delimited : Delimited rest) (negative : Bool) (text : Input) :
    numberText negative (text ++ rest) =
      (numberText negative text).map fun read => (read.1, read.2 ++ rest) := by
  rw [numberText_eq, numberText_eq]
  simp only [spanDigits_append delimited, fractionPart_append delimited, exponentPart_append delimited]
  split
  · rfl
  split
  · rfl
  split
  · rfl
  · rfl

/-- A number is read from the form in which it is written. -/
theorem numberTail_of_numberText {negative : Bool} {text left : Input} {form : NumberText} {number : Number}
    (written : numberText negative text = .ok (form, left)) (read : form.toNumber? = some number) :
    numberTail negative text = .ok (number, left) := by
  unfold numberTail
  rw [written]
  simp only [bind, Except.bind, read]

/-- What follows a number is left over when the number is read. -/
theorem numberTail_append (delimited : Delimited rest) {negative : Bool} {text left : Input} {number : Number}
    (read : numberTail negative text = .ok (number, left)) :
    numberTail negative (text ++ rest) = .ok (number, left ++ rest) := by
  unfold numberTail at read ⊢
  rw [numberText_append delimited]
  cases written : numberText negative text with
  | error problem =>
    rw [written] at read
    cases read
  | ok written' =>
    obtain ⟨form, left'⟩ := written'
    rw [written] at read
    simp only [bind, Except.bind, Except.map] at read ⊢
    split at read
    · obtain ⟨rfl, rfl⟩ := Prod.mk.inj (Except.ok.inj read)
      rfl
    · cases read

/-- The digit of a character. -/
def digitOf (c : Char) : Nat := c.toNat - '0'.toNat

/-- The characters of digits are read as these digits. -/
theorem spanDigits_of_digits {chars : List Char} (digits : ∀ c ∈ chars, c.isDigit = true) :
    spanDigits (chars.map some) = (chars.map digitOf, []) := by
  induction chars with
  | nil => rfl
  | cons c chars ih =>
    obtain ⟨here, later⟩ := List.forall_mem_cons.mp digits
    have digit : digit? (some c) = some (digitOf c) := if_pos (Char.isDigit_iff_toNat.mp here)
    rw [List.map_cons, List.map_cons, spanDigits, digit, ih later]

/-- A positive number has no zero before its digits. -/
theorem head?_toDigits {value : Nat} (positive : 0 < value) :
    ((Nat.toDigits 10 value).map digitOf).head? ≠ some 0 := by
  induction value using Nat.strongRecOn with
  | ind value ih =>
    by_cases single : value < 10
    · rw [Nat.toDigits_of_lt_base single]
      show some (digitOf value.digitChar) ≠ some 0
      have digit : digitOf value.digitChar = value := Nat.toNat_digitChar_sub_48_of_lt_ten single
      rw [digit]
      simp [Nat.ne_of_gt positive]
    · have shorter := ih (value / 10) (by omega) (by omega)
      have some_digit : (Nat.toDigits 10 (value / 10)).map digitOf ≠ [] := by simp [Nat.toDigits_ne_nil]
      obtain ⟨digit, digits, same⟩ := List.exists_cons_of_ne_nil some_digit
      rw [same] at shorter
      rw [Nat.toDigits_of_base_le (by decide) (Nat.le_of_not_lt single), List.map_append, same]
      exact shorter

/-- The digits of a number are read as they are written. -/
theorem numberText_toDigits (negative : Bool) (value : Nat) :
    numberText negative ((Nat.toDigits 10 value).map some) =
      .ok (⟨negative, (Nat.toDigits 10 value).map digitOf, none, none⟩, []) := by
  have digits : ∀ c ∈ Nat.toDigits 10 value, c.isDigit = true :=
    fun c member => Nat.isDigit_of_mem_toDigits (by decide) (by decide) member
  have whole : (((Nat.toDigits 10 value).map digitOf).isEmpty ||
      (((Nat.toDigits 10 value).map digitOf).head? = some 0 &&
        1 < ((Nat.toDigits 10 value).map digitOf).length)) = false := by
    rcases Nat.eq_zero_or_pos value with rfl | positive
    · rfl
    · have filled : (Nat.toDigits 10 value).map digitOf ≠ [] := by simp [Nat.toDigits_ne_nil]
      rw [List.isEmpty_eq_false_iff.mpr filled, decide_eq_false (head?_toDigits positive)]
      rfl
  rw [numberText_eq, spanDigits_of_digits digits]
  simp only [whole]
  rfl

/-- What digits come to behind a number. -/
def numeral (word : Nat) (digits : List Nat) : Nat := digits.foldl (fun value digit => value * 10 + digit) word

/-- Further digits do not lower a number. -/
theorem le_numeral (word : Nat) (digits : List Nat) : word ≤ numeral word digits := by
  induction digits generalizing word with
  | nil => exact Nat.le_refl word
  | cons digit digits ih =>
    have longer : word ≤ word * 10 + digit := by omega
    exact Nat.le_trans longer (ih (word * 10 + digit))

/-- Digits that come to a number of 64 bits are all taken. -/
theorem takeWord_of_fits {word : Nat} {digits : List Nat} (fits : numeral word digits < 18446744073709551616) :
    takeWord word digits = (numeral word digits, []) := by
  induction digits generalizing word with
  | nil => rfl
  | cons digit digits ih =>
    have fits : numeral (word * 10 + digit) digits < 18446744073709551616 := fits
    have next : word * 10 + digit < 18446744073709551616 := Nat.lt_of_le_of_lt (le_numeral _ digits) fits
    rw [takeWord, if_pos next, ih fits]
    rfl

/-- The digits of a number come to the number. -/
theorem numeral_toDigits (value : Nat) : numeral 0 ((Nat.toDigits 10 value).map digitOf) = value := by
  have whole := @Nat.ofDigitChars_ten_toDigits value
  rw [Nat.ofDigitChars_eq_foldl] at whole
  rw [numeral, List.foldl_map]
  simpa only [Nat.mul_comm, digitOf] using whole

/-- A number of 64 bits is read back from its digits. -/
theorem numberTail_toDigits (negative : Bool) (value : Nat) {number : Int}
    (signed : number = if negative then -(value : Int) else value) (proper : negative = true → value ≠ 0)
    (fits : -9223372036854775808 ≤ number ∧ number < 18446744073709551616) :
    numberTail negative ((Nat.toDigits 10 value).map some) = .ok (.integer number fits, []) := by
  have small : value < 18446744073709551616 := by
    cases negative <;> simp only [if_true, if_false, Bool.false_eq_true] at signed <;> omega
  have taken : takeWord 0 ((Nat.toDigits 10 value).map digitOf) = (value, []) := by
    have fits : numeral 0 ((Nat.toDigits 10 value).map digitOf) < 18446744073709551616 := by
      rw [numeral_toDigits]
      exact small
    rw [takeWord_of_fits fits, numeral_toDigits]
  refine numberTail_of_numberText (numberText_toDigits negative value) ?_
  unfold NumberText.toNumber?
  rw [if_pos ⟨rfl, rfl⟩]
  simp only [taken]
  subst signed
  rw [dif_pos ⟨trivial, fun zero => proper zero.1 zero.2, fits⟩]

end LiveFlags.Json
