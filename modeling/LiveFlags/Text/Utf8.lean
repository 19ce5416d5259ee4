/-!
# UTF-8

Reading bytes as characters. `decode` keeps the place of every ill-formed stretch as `none`: such a
stretch is as long as it can be while it still starts some well-formed character, so a caller that
wants a replacement character gets one per stretch (`decodeLossy`), and a caller that wants text or
nothing gets `text?`, which is a text exactly when no stretch is ill formed.
-/
namespace LiveFlags.Text.Utf8

/-- What the first byte of a longer character demands of the bytes after it. -/
structure Lead where
  /-- The bits that the first byte contributes. -/
  payload : Nat
  /-- The least second byte. -/
  low : UInt8
  /-- The greatest second byte. -/
  high : UInt8
  /-- How many bytes follow the second one. -/
  more : Nat

/-- The demands of a first byte; none for a byte that starts no character of two bytes or more. -/
def Lead.ofByte? (byte : UInt8) : Option Lead :=
  if 0xC2 ≤ byte ∧ byte ≤ 0xDF then some ⟨(byte &&& 0x1F).toNat, 0x80, 0xBF, 0⟩
  else if byte = 0xE0 then some ⟨0, 0xA0, 0xBF, 1⟩
  else if byte = 0xED then some ⟨0xD, 0x80, 0x9F, 1⟩
  else if 0xE1 ≤ byte ∧ byte ≤ 0xEF then some ⟨(byte &&& 0x0F).toNat, 0x80, 0xBF, 1⟩
  else if byte = 0xF0 then some ⟨0, 0x90, 0xBF, 2⟩
  else if 0xF1 ≤ byte ∧ byte ≤ 0xF3 then some ⟨(byte &&& 0x07).toNat, 0x80, 0xBF, 2⟩
  else if byte = 0xF4 then some ⟨4, 0x80, 0x8F, 2⟩
  else none

/-- Reads `more` continuation bytes after the bits read so far. -/
def tail (more : Nat) (bits : Nat) (bytes : List UInt8) : Option Char × List UInt8 :=
  match more, bytes with
  | 0, rest => (some (Char.ofNat bits), rest)
  | _ + 1, [] => (none, [])
  | more + 1, byte :: rest =>
    if 0x80 ≤ byte ∧ byte ≤ 0xBF then tail more (bits * 64 + (byte &&& 0x3F).toNat) rest
    else (none, byte :: rest)

/-- Continuation bytes are only ever taken away. -/
theorem length_tail_le (more bits : Nat) (bytes : List UInt8) :
    (tail more bits bytes).2.length ≤ bytes.length := by
  induction more generalizing bits bytes with
  | zero => simp [tail]
  | succ more ih =>
    cases bytes with
    | nil => simp [tail]
    | cons byte rest =>
      simp only [tail]
      split
      · exact Nat.le_succ_of_le (ih _ _)
      · exact Nat.le_refl _

/-- Reads one character, or one ill-formed stretch, that starts with `byte`. -/
def front (byte : UInt8) (bytes : List UInt8) : Option Char × List UInt8 :=
  if byte < 0x80 then (some (Char.ofNat byte.toNat), bytes)
  else
    match Lead.ofByte? byte, bytes with
    | none, _ => (none, bytes)
    | some _, [] => (none, [])
    | some lead, second :: rest =>
      if lead.low ≤ second ∧ second ≤ lead.high then
        tail lead.more (lead.payload * 64 + (second &&& 0x3F).toNat) rest
      else (none, second :: rest)

/-- Reading one character takes nothing but the first byte and bytes after it. -/
theorem length_front_le (byte : UInt8) (bytes : List UInt8) :
    (front byte bytes).2.length ≤ bytes.length := by
  unfold front
  split
  · exact Nat.le_refl _
  · split
    · exact Nat.le_refl _
    · exact Nat.le_refl _
    · split
      · exact Nat.le_succ_of_le (length_tail_le _ _ _)
      · exact Nat.le_refl _

/-- The characters of the bytes, with `none` for each ill-formed stretch. -/
def decode : List UInt8 → List (Option Char)
  | [] => []
  | byte :: bytes => (front byte bytes).1 :: decode (front byte bytes).2
termination_by bytes => bytes.length
decreasing_by exact Nat.lt_succ_of_le (length_front_le byte bytes)

/-- The text that the bytes encode, if they are well formed. -/
def text? (bytes : List UInt8) : Option String :=
  ((decode bytes).mapM id).map String.ofList

/-- The text that the bytes encode, with a replacement character for each ill-formed stretch. -/
def decodeLossy (bytes : List UInt8) : String :=
  String.ofList ((decode bytes).map (·.getD '\uFFFD'))

/-- The bytes of a text. -/
def encode (text : String) : List UInt8 :=
  text.toUTF8.toList

end LiveFlags.Text.Utf8
