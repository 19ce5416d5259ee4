import LiveFlags.Proofs.Decimal.Scientific

/-!
# Texts that write numbers

Which texts write a number, and which number they write, is said here by what they consist of: digits, a point, a
power of ten, a sign or a name (`NaturalText`, `FloatText`). The readers read just these texts, and they read the
number that is written (`readNatural?_eq_some_iff`, `readFloat?_eq_some_iff`).
-/
namespace LiveFlags

/-- The characters are decimal digits. -/
def AreDigits (chars : List Char) : Prop := ∀ char ∈ chars, char.isDigit = true

instance (chars : List Char) : Decidable (AreDigits chars) :=
  decidable_of_iff (chars.all Char.isDigit = true) List.all_eq_true

/-- The text writes a whole number: decimal digits, the most significant first, after a plus sign or none. -/
inductive NaturalText : List Char → Nat → Prop
  /-- Digits alone. -/
  | plain {digits : List Char} (some : digits ≠ []) (decimal : AreDigits digits) :
    NaturalText digits (Nat.ofDigitChars 10 digits 0)
  /-- Digits after a plus sign. -/
  | plus {digits : List Char} (some : digits ≠ []) (decimal : AreDigits digits) :
    NaturalText ('+' :: digits) (Nat.ofDigitChars 10 digits 0)

/-- The text writes the power of ten of a number: nothing, or a letter and a whole number with a sign or none. -/
inductive PowerText : List Char → ℤ → Prop
  /-- Nothing stands for the power zero. -/
  | none : PowerText [] 0
  /-- A power that is not negative. -/
  | forward {letter : Char} {rest : List Char} {power : Nat} (announced : letter = 'e' ∨ letter = 'E')
    (written : NaturalText rest power) : PowerText (letter :: rest) power
  /-- A power with a minus sign. -/
  | back {letter : Char} {digits : List Char} (announced : letter = 'e' ∨ letter = 'E') (some : digits ≠ [])
    (decimal : AreDigits digits) : PowerText (letter :: '-' :: digits) (-(Nat.ofDigitChars 10 digits 0 : ℤ))

/-- The text writes a fraction: digits, perhaps with a point before, among or after them, and a power of ten. -/
inductive DecimalText : List Char → ℚ → Prop
  /-- Digits without a point. -/
  | whole {digits power : List Char} {exponent : ℤ} (some : digits ≠ []) (decimal : AreDigits digits)
    (ends : PowerText power exponent) :
    DecimalText (digits ++ power) (Nat.ofDigitChars 10 digits 0 * 10 ^ exponent)
  /-- Digits around a point. -/
  | pointed {digits places power : List Char} {exponent : ℤ} (some : digits ≠ [] ∨ places ≠ [])
    (decimal : AreDigits digits) (decimal' : AreDigits places) (ends : PowerText power exponent) :
    DecimalText (digits ++ '.' :: (places ++ power))
      ((Nat.ofDigitChars 10 digits 0 + Nat.ofDigitChars 10 places 0 / 10 ^ places.length) * 10 ^ exponent)

/-- The text writes a double without a sign: a name, in any case of its letters, or a fraction, which is rounded. -/
inductive SizeText : List Char → Float → Prop
  /-- Infinity. -/
  | infinity {chars : List Char}
    (named : chars.map Char.toLower = ['i', 'n', 'f'] ∨
      chars.map Char.toLower = ['i', 'n', 'f', 'i', 'n', 'i', 't', 'y']) : SizeText chars (1.0 / 0.0)
  /-- The value that is no number. -/
  | noNumber {chars : List Char} (named : chars.map Char.toLower = ['n', 'a', 'n']) : SizeText chars (0.0 / 0.0)
  /-- A fraction. -/
  | fraction {chars : List Char} {exact : ℚ} {size : Float} (written : DecimalText chars exact)
    (rounded : Approximates exact size) : SizeText chars size

/-- The text writes a double, after a sign or none. -/
inductive FloatText : List Char → Float → Prop
  /-- No sign. -/
  | plain {chars : List Char} {size : Float} (written : SizeText chars size) : FloatText chars size
  /-- A plus sign. -/
  | plus {chars : List Char} {size : Float} (written : SizeText chars size) : FloatText ('+' :: chars) size
  /-- A minus sign. -/
  | minus {chars : List Char} {size : Float} (written : SizeText chars size) : FloatText ('-' :: chars) (-size)

section Digits

variable {digits rest : List Char}

/-- The decimal digits are the digits. -/
theorem isDecimalDigit_eq_isDigit (char : Char) : isDecimalDigit char = char.isDigit := rfl

/-- Digits are read by their place. -/
theorem digitsValue_eq_ofDigitChars (digits : List Char) : digitsValue digits = Nat.ofDigitChars 10 digits 0 := by
  rw [digitsValue, Nat.ofDigitChars_eq_foldl]
  simp only [Nat.mul_comm]

/-- All characters are decimal digits just if each is. -/
theorem all_isDecimalDigit_iff : digits.all isDecimalDigit = true ↔ AreDigits digits := List.all_eq_true

/-- A text is refused unless it consists of digits, of one at least. -/
theorem refuses_iff :
    (digits.isEmpty || !digits.all isDecimalDigit) = true ↔ ¬(digits ≠ [] ∧ AreDigits digits) := by
  rw [Bool.or_eq_true, List.isEmpty_iff, Bool.not_eq_true', ← Bool.not_eq_true, all_isDecimalDigit_iff, ne_eq,
    not_and_or, not_not]

/-- The digits at the front of a text are those before the first other character. -/
theorem spanDigits_append (decimal : AreDigits digits)
    (ends : ∀ char, rest.head? = some char → char.isDigit = false) : spanDigits (digits ++ rest) = (digits, rest) := by
  have none : rest.takeWhile isDecimalDigit = [] ∧ rest.dropWhile isDecimalDigit = rest := by
    cases rest with
    | nil => exact ⟨rfl, rfl⟩
    | cons char more =>
      have other : ¬isDecimalDigit char = true := by
        rw [isDecimalDigit_eq_isDigit, ends char rfl]
        exact Bool.false_ne_true
      exact ⟨List.takeWhile_cons_of_neg other, List.dropWhile_cons_of_neg other⟩
  have all : ∀ char ∈ digits, isDecimalDigit char = true := decimal
  rw [spanDigits, List.takeWhile_append_of_pos all, List.dropWhile_append_of_pos all, none.1, none.2, List.append_nil]

/-- A text is its digits at the front and what follows them. -/
theorem exists_spanDigits (chars : List Char) :
    ∃ digits rest, chars = digits ++ rest ∧ AreDigits digits ∧ ∀ char, rest.head? = some char → char.isDigit = false := by
  refine ⟨chars.takeWhile isDecimalDigit, chars.dropWhile isDecimalDigit, List.takeWhile_append_dropWhile.symm,
    List.all_eq_true.mp List.all_takeWhile, ?_⟩
  intro char first
  have kept := List.head?_dropWhile_not isDecimalDigit chars
  rw [first] at kept
  exact kept

/-- A text of digits does not begin with another character. -/
theorem AreDigits.head_ne {char other : Char} (decimal : AreDigits digits) (first : digits.head? = some char)
    (differs : other.isDigit = false) : char ≠ other := by
  rintro rfl
  have digit := decimal char (List.mem_of_head? first)
  exact Bool.false_ne_true (differs.symm.trans digit)

end Digits

section Natural

variable {chars : List Char}

/-- What follows a plus sign at the front, and all of a text without one. -/
def afterPlus : List Char → List Char
  | '+' :: rest => rest
  | chars => chars

/-- A text without a plus sign at the front is taken as it is. -/
theorem afterPlus_eq_self (bare : ∀ char, chars.head? = some char → char ≠ '+') : afterPlus chars = chars := by
  unfold afterPlus
  split
  · exact absurd rfl (bare '+' rfl)
  · rfl

/-- A whole number is written by the digits after a plus sign or none. -/
theorem naturalText_iff {number : Nat} : NaturalText chars number ↔
    afterPlus chars ≠ [] ∧ AreDigits (afterPlus chars) ∧ number = Nat.ofDigitChars 10 (afterPlus chars) 0 := by
  constructor
  · intro written
    cases written with
    | plain some decimal =>
      rw [afterPlus_eq_self fun char first => decimal.head_ne first (by decide)]
      exact ⟨some, decimal, rfl⟩
    | plus some decimal => exact ⟨some, decimal, rfl⟩
  · rintro ⟨some, decimal, rfl⟩
    revert some decimal
    unfold afterPlus
    split
    · exact .plus
    · exact .plain

/-- Just the texts that write a number of 64 bits are read, and the number that they write is read. -/
theorem readNatural?_eq_some_iff {word : UInt64} : readNatural? chars = some word ↔ NaturalText chars word.toNat := by
  have computed : readNatural? chars =
      if (afterPlus chars).isEmpty || !(afterPlus chars).all isDecimalDigit then none
      else if digitsValue (afterPlus chars) < 18446744073709551616 then
        some (UInt64.ofNat (digitsValue (afterPlus chars)))
      else none := rfl
  rw [computed, naturalText_iff, digitsValue_eq_ofDigitChars]
  generalize afterPlus chars = digits
  have word := word.toNat_lt
  by_cases legible : digits ≠ [] ∧ AreDigits digits
  · rw [if_neg (mt refuses_iff.mp (not_not.mpr legible)), and_iff_right legible.1, and_iff_right legible.2]
    generalize Nat.ofDigitChars 10 digits 0 = value
    constructor
    · intro read
      split at read
      · obtain rfl := Option.some.inj read
        exact UInt64.toNat_ofNat_of_lt ‹_›
      · contradiction
    · rintro rfl
      rw [if_pos word, UInt64.ofNat_toNat]
  · rw [if_pos (refuses_iff.mpr legible)]
    exact iff_of_false (by simp) fun written => legible ⟨written.1, written.2.1⟩

end Natural

/-- What may stand for a sign at the front of a text, and what follows it. -/
def cutSign : List Char → Bool × List Char
  | '-' :: rest => (true, rest)
  | '+' :: rest => (false, rest)
  | chars => (false, chars)

/-- A text without a sign at the front is taken as it is. -/
theorem cutSign_eq_self {chars : List Char} (bare : ∀ char, chars.head? = some char → char ≠ '-' ∧ char ≠ '+') :
    cutSign chars = (false, chars) := by
  unfold cutSign
  split
  · exact absurd rfl (bare '-' rfl).1
  · exact absurd rfl (bare '+' rfl).2
  · rfl

section Power

variable {chars digits : List Char} {exponent : ℤ}

/-- A power of ten with a letter is written by the digits after a sign or none. -/
theorem powerText_cons_iff {letter : Char} {rest : List Char} : PowerText (letter :: rest) exponent ↔
    (letter = 'e' ∨ letter = 'E') ∧ (cutSign rest).2 ≠ [] ∧ AreDigits (cutSign rest).2 ∧
      exponent = if (cutSign rest).1 then -(Nat.ofDigitChars 10 (cutSign rest).2 0 : ℤ)
        else Nat.ofDigitChars 10 (cutSign rest).2 0 := by
  constructor
  · intro written
    cases written with
    | forward announced written =>
      refine ⟨announced, ?_⟩
      cases written with
      | plain some decimal =>
        have bare : cutSign rest = (false, rest) :=
          cutSign_eq_self fun char first => ⟨decimal.head_ne first (by decide), decimal.head_ne first (by decide)⟩
        rw [bare]
        exact ⟨some, decimal, rfl⟩
      | plus some decimal => exact ⟨some, decimal, rfl⟩
    | back announced some decimal => exact ⟨announced, some, decimal, rfl⟩
  · rintro ⟨announced, some, decimal, rfl⟩
    revert some decimal
    unfold cutSign
    split
    · exact fun some decimal => .back announced some decimal
    · exact fun some decimal => .forward announced (.plus some decimal)
    · exact fun some decimal => .forward announced (.plain some decimal)

/-- Just the texts that write a power of ten are read as one. -/
theorem readExponent?_eq_some_iff : readExponent? chars = some exponent ↔ PowerText chars exponent := by
  cases chars with
  | nil =>
    have computed : readExponent? [] = some 0 := rfl
    rw [computed, Option.some.injEq]
    constructor
    · rintro rfl
      exact .none
    · intro written
      cases written
      rfl
  | cons letter rest =>
    have computed : readExponent? (letter :: rest) =
        if letter ≠ 'e' ∧ letter ≠ 'E' then none
        else if (cutSign rest).2.isEmpty || !(cutSign rest).2.all isDecimalDigit then none
        else some (if (cutSign rest).1 then -(digitsValue (cutSign rest).2 : ℤ) else digitsValue (cutSign rest).2) :=
      rfl
    rw [computed, powerText_cons_iff, digitsValue_eq_ofDigitChars]
    generalize cutSign rest = cut
    by_cases announced : letter = 'e' ∨ letter = 'E'
    · rw [if_neg (by tauto), and_iff_right announced]
      by_cases legible : cut.2 ≠ [] ∧ AreDigits cut.2
      · rw [if_neg (mt refuses_iff.mp (not_not.mpr legible)), and_iff_right legible.1, and_iff_right legible.2,
          Option.some.injEq, eq_comm]
      · rw [if_pos (refuses_iff.mpr legible)]
        exact iff_of_false (by simp) fun written => legible ⟨written.1, written.2.1⟩
    · rw [if_pos (not_or.mp announced)]
      exact iff_of_false (by simp) fun written => announced written.1

/-- What writes a power of ten begins with its letter. -/
theorem PowerText.head_eq (written : PowerText chars exponent) {char : Char} (first : chars.head? = some char) :
    char = 'e' ∨ char = 'E' := by
  cases written with
  | none => contradiction
  | forward announced | back announced =>
    obtain rfl := Option.some.inj first
    exact announced

end Power

section Fraction

variable {chars digits places rest : List Char} {exact : ℚ} {size : Float}

/-- The digits after a point at the front, and what follows them. -/
def cutPlaces : List Char → List Char × List Char
  | '.' :: rest => spanDigits rest
  | rest => ([], rest)

/-- Digits, perhaps with places after a point, are read together, and the power of ten is lessened by the number of
places. -/
theorem readUnsigned?_append (decimal : AreDigits digits)
    (ends : ∀ char, rest.head? = some char → char.isDigit = false) :
    readUnsigned? (digits ++ rest) = if digits.isEmpty && (cutPlaces rest).1.isEmpty then none else
      (readExponent? (cutPlaces rest).2).map fun exponent =>
        nearestFloat (Nat.ofDigitChars 10 (digits ++ (cutPlaces rest).1) 0) (exponent - (cutPlaces rest).1.length) := by
  rw [← digitsValue_eq_ofDigitChars]
  unfold readUnsigned?
  rw [spanDigits_append decimal ends]
  rfl

/-- A text without a point at the front has no places. -/
theorem cutPlaces_eq_self (pointless : rest.head? ≠ some '.') : cutPlaces rest = ([], rest) := by
  unfold cutPlaces
  split
  · exact absurd rfl pointless
  · rfl

/-- The places after the point are worth their part of a power of ten. -/
theorem ofDigitChars_append_mul (digits places : List Char) (exponent : ℤ) :
    (Nat.ofDigitChars 10 (digits ++ places) 0 : ℚ) * 10 ^ (exponent - places.length) =
      (Nat.ofDigitChars 10 digits 0 + Nat.ofDigitChars 10 places 0 / 10 ^ places.length) * 10 ^ exponent := by
  rw [Nat.ofDigitChars_append, Nat.ofDigitChars_eq_ofDigitChars_zero, zpow_sub₀ (by norm_num), zpow_natCast]
  push_cast
  field_simp

/-- What follows the digits and the places of a fraction begins with neither a digit nor a point. -/
theorem PowerText.ends {power : List Char} {exponent : ℤ} (written : PowerText power exponent) :
    (∀ char, power.head? = some char → char.isDigit = false) ∧ power.head? ≠ some '.' := by
  constructor
  · intro char first
    rcases written.head_eq first with rfl | rfl
    · decide
    · decide
  · intro first
    rcases written.head_eq first with same | same
    · exact absurd same (by decide)
    · exact absurd same (by decide)

/-- Just the texts that write a fraction are read without a name, and the fraction is rounded. -/
theorem readUnsigned?_eq_some_iff :
    readUnsigned? chars = some size ↔ ∃ exact, DecimalText chars exact ∧ Approximates exact size := by
  constructor
  · intro read
    obtain ⟨digits, rest, rfl, decimal, ends⟩ := exists_spanDigits chars
    rw [readUnsigned?_append decimal ends] at read
    by_cases pointed : rest.head? = some '.'
    · obtain ⟨more, rfl⟩ : ∃ more, rest = '.' :: more := ⟨rest.tail, (List.cons_head?_tail pointed).symm⟩
      obtain ⟨places, power, rfl, decimal', ends'⟩ := exists_spanDigits more
      have cut : cutPlaces ('.' :: (places ++ power)) = (places, power) := spanDigits_append decimal' ends'
      rw [cut] at read
      by_cases none : digits = [] ∧ places = []
      · rw [none.1, none.2] at read
        contradiction
      · rw [if_neg (by simpa using none)] at read
        obtain ⟨exponent, came, rfl⟩ := Option.map_eq_some_iff.mp read
        refine ⟨_, .pointed (not_and_or.mp none) decimal decimal' (readExponent?_eq_some_iff.mp came), ?_⟩
        rw [← ofDigitChars_append_mul]
        exact approximates_nearestFloat _ _
    · rw [cutPlaces_eq_self pointed] at read
      by_cases none : digits = []
      · rw [none] at read
        contradiction
      · rw [if_neg (by simpa using none)] at read
        obtain ⟨exponent, came, rfl⟩ := Option.map_eq_some_iff.mp read
        refine ⟨_, .whole none decimal (readExponent?_eq_some_iff.mp came), ?_⟩
        rw [List.append_nil, List.length_nil, Nat.cast_zero, sub_zero]
        exact approximates_nearestFloat _ _
  · rintro ⟨exact, written, rounded⟩
    cases written with
    | @whole digits power exponent some decimal ends =>
      obtain ⟨other, pointless⟩ := ends.ends
      rw [readUnsigned?_append decimal other, cutPlaces_eq_self pointless, readExponent?_eq_some_iff.mpr ends,
        if_neg (by simpa using some), Option.map_some, List.append_nil, List.length_nil, Nat.cast_zero, sub_zero]
      exact congrArg _ ((approximates_nearestFloat _ _).unique rounded)
    | @pointed digits places power exponent some decimal decimal' ends =>
      have point : ∀ char, ('.' :: (places ++ power)).head? = Option.some char → char.isDigit = false := by
        intro char first
        obtain rfl := Option.some.inj first
        decide
      have cut : cutPlaces ('.' :: (places ++ power)) = (places, power) := spanDigits_append decimal' ends.ends.1
      rw [readUnsigned?_append decimal point, cut, readExponent?_eq_some_iff.mpr ends,
        if_neg (by simpa using not_and_or.mpr some), Option.map_some]
      rw [← ofDigitChars_append_mul] at rounded
      exact congrArg _ ((approximates_nearestFloat _ _).unique rounded)

/-- What writes a fraction begins with a digit or a point. -/
theorem DecimalText.head_eq (written : DecimalText chars exact) :
    ∃ char, chars.head? = some char ∧ (char.isDigit = true ∨ char = '.') := by
  cases written with
  | @whole digits power exponent some decimal ends =>
    cases digits with
    | nil => contradiction
    | cons char rest => exact ⟨char, rfl, .inl (decimal char List.mem_cons_self)⟩
  | @pointed digits places power exponent some decimal decimal' ends =>
    cases digits with
    | nil => exact ⟨'.', rfl, .inr rfl⟩
    | cons char rest => exact ⟨char, rfl, .inl (decimal char List.mem_cons_self)⟩

end Fraction

section Size

variable {chars : List Char} {size number : Float}

/-- A name is read as the value that it stands for. -/
theorem namedFloat?_eq (chars : List Char) : namedFloat? chars =
    if chars.map Char.toLower = ['i', 'n', 'f'] ∨ chars.map Char.toLower = ['i', 'n', 'f', 'i', 'n', 'i', 't', 'y'] then
      some (1.0 / 0.0)
    else if chars.map Char.toLower = ['n', 'a', 'n'] then some (0.0 / 0.0)
    else none := by
  have inf : "inf" = String.ofList ['i', 'n', 'f'] := rfl
  have infinity : "infinity" = String.ofList ['i', 'n', 'f', 'i', 'n', 'i', 't', 'y'] := rfl
  have nan : "nan" = String.ofList ['n', 'a', 'n'] := rfl
  unfold namedFloat?
  simp only [inf, infinity, nan, String.ofList_inj]

/-- Digits and the point have no other case. -/
theorem toLower_eq_self {char : Char} (plain : char.isDigit = true ∨ char = '.') : char.toLower = char := by
  have small : char.val ≤ 57 := by
    rcases plain with digit | rfl
    · rw [Char.isDigit, Bool.and_eq_true, decide_eq_true_iff, decide_eq_true_iff] at digit
      exact digit.2
    · decide
  have lower : ¬('A'.val ≤ char.val ∧ char.val ≤ 'Z'.val) := by
    intro upper
    exact absurd (UInt32.le_trans upper.1 small) (by decide)
  exact dif_neg lower

/-- A text whose first letter is that of a name writes no fraction. -/
theorem not_decimalText {letter : Char} {rest : List Char} {exact : ℚ}
    (named : chars.map Char.toLower = letter :: rest) (differs : letter.isDigit = false ∧ letter ≠ '.') :
    ¬DecimalText chars exact := by
  intro written
  obtain ⟨char, first, plain⟩ := written.head_eq
  have same : letter = char := by
    have lower : (chars.map Char.toLower).head? = some char.toLower := by rw [List.head?_map, first, Option.map_some]
    rw [named, toLower_eq_self plain] at lower
    exact Option.some.inj lower
  rw [same] at differs
  rcases plain with digit | point
  · exact Bool.false_ne_true (differs.1.symm.trans digit)
  · exact differs.2 point

/-- Just the texts that write a double without a sign are read as one. -/
theorem readSize_eq_some_iff :
    ((namedFloat? chars).orElse fun _ => readUnsigned? chars) = some size ↔ SizeText chars size := by
  rw [namedFloat?_eq]
  by_cases infinity : chars.map Char.toLower = ['i', 'n', 'f'] ∨
      chars.map Char.toLower = ['i', 'n', 'f', 'i', 'n', 'i', 't', 'y']
  · rw [if_pos infinity, Option.orElse_some, Option.some.injEq]
    constructor
    · rintro rfl
      exact .infinity infinity
    · intro written
      cases written with
      | infinity => rfl
      | noNumber named =>
        rw [named] at infinity
        exact absurd infinity (by decide)
      | fraction written =>
        rcases infinity with short | long
        · exact absurd written (not_decimalText short (by decide))
        · exact absurd written (not_decimalText long (by decide))
  rw [if_neg infinity]
  by_cases nan : chars.map Char.toLower = ['n', 'a', 'n']
  · rw [if_pos nan, Option.orElse_some, Option.some.injEq]
    constructor
    · rintro rfl
      exact .noNumber nan
    · intro written
      cases written with
      | infinity named => exact absurd named infinity
      | noNumber => rfl
      | fraction written => exact absurd written (not_decimalText nan (by decide))
  rw [if_neg nan, Option.orElse_none, readUnsigned?_eq_some_iff]
  constructor
  · rintro ⟨exact, written, rounded⟩
    exact .fraction written rounded
  · intro written
    cases written with
    | infinity named => exact absurd named infinity
    | noNumber named => exact absurd named nan
    | fraction written rounded => exact ⟨_, written, rounded⟩

/-- What writes a double without a sign begins with none. -/
theorem SizeText.head_ne (written : SizeText chars size) {char : Char} (first : chars.head? = some char) :
    char ≠ '-' ∧ char ≠ '+' := by
  have begins : char.toLower = 'i' ∨ char.toLower = 'n' ∨ char.isDigit = true ∨ char = '.' := by
    have lower : (chars.map Char.toLower).head? = some char.toLower := by rw [List.head?_map, first, Option.map_some]
    cases written with
    | infinity named =>
      rcases named with named | named
      · rw [named] at lower
        exact .inl (Option.some.inj lower).symm
      · rw [named] at lower
        exact .inl (Option.some.inj lower).symm
    | noNumber named =>
      rw [named] at lower
      exact .inr (.inl (Option.some.inj lower).symm)
    | fraction written =>
      obtain ⟨other, same, plain⟩ := written.head_eq
      obtain rfl := Option.some.inj (same.symm.trans first)
      exact .inr (.inr plain)
  constructor
  · rintro rfl
    exact absurd begins (by decide)
  · rintro rfl
    exact absurd begins (by decide)

/-- Just the texts that write a double are read, and the double that they write is read. -/
theorem readFloat?_eq_some_iff : readFloat? chars = some number ↔ FloatText chars number := by
  have computed : readFloat? chars =
      ((namedFloat? (cutSign chars).2).orElse fun _ => readUnsigned? (cutSign chars).2).map fun size =>
        if (cutSign chars).1 then -size else size := rfl
  rw [computed, Option.map_eq_some_iff]
  simp only [readSize_eq_some_iff]
  constructor
  · rintro ⟨size, written, rfl⟩
    revert written
    unfold cutSign
    split
    · exact .minus
    · exact .plus
    · exact .plain
  · intro written
    cases written with
    | plain written =>
      refine ⟨number, ?_⟩
      rw [cutSign_eq_self fun char first => written.head_ne first]
      exact ⟨written, rfl⟩
    | plus written => exact ⟨_, written, rfl⟩
    | minus written => exact ⟨_, written, rfl⟩

end Size

end LiveFlags
