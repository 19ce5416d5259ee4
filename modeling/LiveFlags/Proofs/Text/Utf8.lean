import LiveFlags.Text.Utf8
import Mathlib.Tactic.IntervalCases

/-!
# Bytes of characters

What is written is read back, character by character (`decode_encode`), and bytes that are a text are those that the
text is written as (`text?_eq_some_iff`). The bytes of a character beyond ASCII are all 128 or more
(`le_of_mem_utf8EncodeChar`).
-/
namespace LiveFlags.Text.Utf8

/-- The bytes of an array from an index on, after those that have been gone through. -/
theorem toList_loop (bytes : ByteArray) (index : Nat) (passed : List UInt8) :
    ByteArray.toList.loop bytes index passed = passed.reverse ++ bytes.data.toList.drop index := by
  fun_induction ByteArray.toList.loop bytes index passed with
  | case1 index passed inside ih =>
    have here : index < bytes.data.toList.length := by simpa using inside
    rw [ih, List.drop_eq_getElem_cons here, List.reverse_cons, List.append_assoc]
    simp [ByteArray.get!, inside]
  | case2 index passed outside =>
    have there : bytes.data.toList.length ≤ index := by simpa using outside
    rw [List.drop_eq_nil_of_le there, List.append_nil]

/-- The bytes of a text are those of its characters in turn. -/
theorem encode_ofList (chars : List Char) :
    encode (String.ofList chars) = chars.flatMap String.utf8EncodeChar := by
  unfold encode ByteArray.toList
  rw [toList_loop, String.toUTF8_eq_toByteArray, String.toByteArray_ofList, List.utf8Encode,
    List.toList_data_toByteArray]
  rfl

/-- The bytes of a text are those of its characters. -/
theorem encode_eq (text : String) : encode text = text.toList.flatMap String.utf8EncodeChar := by
  rw [← encode_ofList, String.ofList_toList]

/-- The bytes of a character beyond ASCII are beyond ASCII. -/
theorem le_of_mem_utf8EncodeChar {char : Char} {byte : UInt8} (beyond : 127 < char.val.toNat)
    (member : byte ∈ String.utf8EncodeChar char) : 0x80 ≤ byte := by
  have wide : ∀ code : Nat, 128 ≤ code → code < 256 → 0x80 ≤ UInt8.ofNat code := by
    intro code least most
    rw [UInt8.le_iff_toNat_le, UInt8.toNat_ofNat_of_lt' most]
    exact least
  simp only [String.utf8EncodeChar, if_neg (Nat.not_le.mpr beyond)] at member
  -- two, three or four bytes
  split at member
  · simp only [List.mem_cons, List.not_mem_nil, or_false] at member
    rcases member with rfl | rfl <;> exact wide _ (by omega) (by omega)
  · split at member
    · simp only [List.mem_cons, List.not_mem_nil, or_false] at member
      rcases member with rfl | rfl | rfl <;> exact wide _ (by omega) (by omega)
    · simp only [List.mem_cons, List.not_mem_nil, or_false] at member
      rcases member with rfl | rfl | rfl | rfl <;> exact wide _ (by omega) (by omega)

/-- A number below 256 is that of a byte. -/
theorem toNat_ofNat {code : Nat} (small : code < 256) : (UInt8.ofNat code).toNat = code :=
  UInt8.toNat_ofNat_of_lt' small

/-- A byte with six payload bits continues a character and hands on these bits. -/
theorem continuation_bits {bits : Nat} (few : bits < 64) :
    0x80 ≤ UInt8.ofNat (bits + 128) ∧ UInt8.ofNat (bits + 128) ≤ 0xBF ∧
      (UInt8.ofNat (bits + 128) &&& 0x3F).toNat = bits := by
  revert bits
  decide

/-- Continuation bytes are read into the bits so far. -/
theorem tail_succ (more bits : Nat) {next : Nat} (few : next < 64) (rest : List UInt8) :
    tail (more + 1) bits (UInt8.ofNat (next + 128) :: rest) = tail more (bits * 64 + next) rest := by
  obtain ⟨least, greatest, payload⟩ := continuation_bits few
  rw [tail, if_pos ⟨least, greatest⟩, payload]

/-- The first of two bytes. -/
theorem lead_of_two (payload : Nat) (least : 2 ≤ payload) (few : payload < 32) :
    ¬UInt8.ofNat (payload + 192) < 0x80 ∧
      Lead.ofByte? (UInt8.ofNat (payload + 192)) = some ⟨payload, 0x80, 0xBF, 0⟩ := by
  interval_cases payload <;> exact ⟨by decide, rfl⟩

/-- The first of three bytes. -/
theorem lead_of_three (payload : Nat) (few : payload < 16) :
    ¬UInt8.ofNat (payload + 224) < 0x80 ∧
      Lead.ofByte? (UInt8.ofNat (payload + 224)) =
        some ⟨payload, if payload = 0 then 0xA0 else 0x80, if payload = 13 then 0x9F else 0xBF, 1⟩ := by
  interval_cases payload <;> exact ⟨by decide, rfl⟩

/-- The first of four bytes. -/
theorem lead_of_four (payload : Nat) (few : payload ≤ 4) :
    ¬UInt8.ofNat (payload + 240) < 0x80 ∧
      Lead.ofByte? (UInt8.ofNat (payload + 240)) =
        some ⟨payload, if payload = 0 then 0x90 else 0x80, if payload = 4 then 0x8F else 0xBF, 2⟩ := by
  interval_cases payload <;> exact ⟨by decide, rfl⟩

/-- A first byte and a second one that it admits are read on with the bits of both. -/
theorem front_of_lead {byte : UInt8} {lead : Lead} (wide : ¬byte < 0x80) (leads : Lead.ofByte? byte = some lead)
    {next : Nat} (few : next < 64) (low : lead.low ≤ UInt8.ofNat (next + 128))
    (high : UInt8.ofNat (next + 128) ≤ lead.high) (rest : List UInt8) :
    front byte (UInt8.ofNat (next + 128) :: rest) = tail lead.more (lead.payload * 64 + next) rest := by
  obtain ⟨_, _, payload⟩ := continuation_bits few
  unfold front
  rw [if_neg wide, leads]
  dsimp only
  rw [if_pos ⟨low, high⟩, payload]

/-- A lower bound of a continuation byte is one of its bits. -/
theorem le_continuation (least bits : Nat) (above : least ≤ bits) (few : bits < 64) :
    UInt8.ofNat (least + 128) ≤ UInt8.ofNat (bits + 128) := by
  rw [UInt8.le_iff_toNat_le, toNat_ofNat (by omega), toNat_ofNat (by omega)]
  omega

/-- One byte is read as its character. -/
theorem decode_one {code : Nat} (few : code ≤ 127) (rest : List UInt8) :
    decode (UInt8.ofNat code :: rest) = some (Char.ofNat code) :: decode rest := by
  have ascii : UInt8.ofNat code < 0x80 := by
    rw [UInt8.lt_iff_toNat_lt, toNat_ofNat (by omega)]
    exact Nat.lt_succ_of_le few
  have first : front (UInt8.ofNat code) rest = (some (Char.ofNat code), rest) := by
    unfold front
    rw [if_pos ascii, toNat_ofNat (by omega)]
  rw [decode, first]

/-- Two bytes are read as their character. -/
theorem decode_two {code : Nat} (many : 127 < code) (few : code ≤ 2047) (rest : List UInt8) :
    decode (UInt8.ofNat (code / 64 % 32 + 192) :: UInt8.ofNat (code % 64 + 128) :: rest) =
      some (Char.ofNat code) :: decode rest := by
  have last : code % 64 < 64 := Nat.mod_lt _ (by decide)
  have whole : code / 64 % 32 * 64 + code % 64 = code := by omega
  obtain ⟨wide, leads⟩ := lead_of_two (code / 64 % 32) (by omega) (by omega)
  obtain ⟨low, high, _⟩ := continuation_bits last
  have first := front_of_lead wide leads last low high rest
  dsimp only at first
  rw [tail, whole] at first
  rw [decode, first]

/-- Three bytes are read as their character, if it is no half of a pair. -/
theorem decode_three {code : Nat} (many : 2047 < code) (few : code ≤ 65535)
    (valid : code < 0xD800 ∨ 0xDFFF < code) (rest : List UInt8) :
    decode (UInt8.ofNat (code / 4096 % 16 + 224) :: UInt8.ofNat (code / 64 % 64 + 128) ::
      UInt8.ofNat (code % 64 + 128) :: rest) = some (Char.ofNat code) :: decode rest := by
  have last : code % 64 < 64 := Nat.mod_lt _ (by decide)
  have middle : code / 64 % 64 < 64 := Nat.mod_lt _ (by decide)
  have whole : (code / 4096 % 16 * 64 + code / 64 % 64) * 64 + code % 64 = code := by omega
  obtain ⟨wide, leads⟩ := lead_of_three (code / 4096 % 16) (by omega)
  have first := front_of_lead wide leads middle ?_ ?_ (UInt8.ofNat (code % 64 + 128) :: rest)
  · dsimp only at first
    rw [tail_succ _ _ last, tail, whole] at first
    rw [decode, first]
  · dsimp only
    split
    · exact le_continuation 32 _ (by omega) middle
    · exact le_continuation 0 _ (by omega) middle
  · dsimp only
    split
    · exact le_continuation _ 31 (by omega) (by omega)
    · exact le_continuation _ 63 (by omega) (by omega)

/-- Four bytes are read as their character. -/
theorem decode_four {code : Nat} (many : 65535 < code) (few : code < 0x110000) (rest : List UInt8) :
    decode (UInt8.ofNat (code / 262144 % 8 + 240) :: UInt8.ofNat (code / 4096 % 64 + 128) ::
      UInt8.ofNat (code / 64 % 64 + 128) :: UInt8.ofNat (code % 64 + 128) :: rest) =
        some (Char.ofNat code) :: decode rest := by
  have last : code % 64 < 64 := Nat.mod_lt _ (by decide)
  have middle : code / 64 % 64 < 64 := Nat.mod_lt _ (by decide)
  have upper : code / 4096 % 64 < 64 := Nat.mod_lt _ (by decide)
  have whole : ((code / 262144 % 8 * 64 + code / 4096 % 64) * 64 + code / 64 % 64) * 64 + code % 64 = code := by
    omega
  obtain ⟨wide, leads⟩ := lead_of_four (code / 262144 % 8) (by omega)
  have first := front_of_lead wide leads upper ?_ ?_
    (UInt8.ofNat (code / 64 % 64 + 128) :: UInt8.ofNat (code % 64 + 128) :: rest)
  · dsimp only at first
    rw [tail_succ _ _ middle, tail_succ _ _ last, tail, whole] at first
    rw [decode, first]
  · dsimp only
    split
    · exact le_continuation 16 _ (by omega) upper
    · exact le_continuation 0 _ (by omega) upper
  · dsimp only
    split
    · exact le_continuation _ 15 (by omega) (by omega)
    · exact le_continuation _ 63 (by omega) (by omega)

/-- The bytes of a character are read as that character. -/
theorem decode_utf8EncodeChar (char : Char) (rest : List UInt8) :
    decode (String.utf8EncodeChar char ++ rest) = some char :: decode rest := by
  have valid : char.val.toNat < 0xD800 ∨ 0xDFFF < char.val.toNat ∧ char.val.toNat < 0x110000 := char.valid
  have same : some char = some (Char.ofNat char.val.toNat) := congrArg some (Char.ofNat_toNat char).symm
  rw [same]
  unfold String.utf8EncodeChar
  dsimp only
  split
  · exact decode_one (by assumption) rest
  split
  · exact decode_two (by omega) (by assumption) rest
  split
  · exact decode_three (by omega) (by assumption) (by omega) rest
  · exact decode_four (by omega) (by omega) rest

/-- The bytes of a text are read as its characters. -/
theorem decode_encode (text : String) : decode (encode text) = text.toList.map some := by
  rw [encode_eq]
  generalize text.toList = chars
  induction chars with
  | nil => simp [decode]
  | cons char chars ih => rw [List.flatMap_cons, decode_utf8EncodeChar, ih, List.map_cons]

/-- A byte is its payload bits after its mark. -/
theorem ofNat_eq {byte : UInt8} {payload mark : Nat} (whole : payload + mark = byte.toNat) :
    UInt8.ofNat (payload + mark) = byte := by
  rw [whole, UInt8.ofNat_toNat]

/-- The bits of a byte that continues a character make up the byte. -/
theorem eq_continuation {byte : UInt8} (least : 0x80 ≤ byte) (most : byte ≤ 0xBF) :
    (byte &&& 0x3F).toNat + 128 = byte.toNat ∧ (byte &&& 0x3F).toNat < 64 := by
  have bits : (byte &&& 0x3F).toNat = byte.toNat % 64 := Nat.and_two_pow_sub_one_eq_mod _ 6
  have least : 128 ≤ byte.toNat := least
  have most : byte.toNat ≤ 191 := most
  rw [bits]
  omega

/-- The bytes of the character of a number. -/
theorem utf8EncodeChar_ofNat {code : Nat} (valid : code < 0xD800 ∨ 0xDFFF < code ∧ code < 0x110000) :
    String.utf8EncodeChar (Char.ofNat code) =
      if code ≤ 127 then [UInt8.ofNat code]
      else if code ≤ 2047 then [UInt8.ofNat (code / 64 % 32 + 192), UInt8.ofNat (code % 64 + 128)]
      else if code ≤ 65535 then
        [UInt8.ofNat (code / 4096 % 16 + 224), UInt8.ofNat (code / 64 % 64 + 128), UInt8.ofNat (code % 64 + 128)]
      else
        [UInt8.ofNat (code / 262144 % 8 + 240), UInt8.ofNat (code / 4096 % 64 + 128),
          UInt8.ofNat (code / 64 % 64 + 128), UInt8.ofNat (code % 64 + 128)] := by
  have same : (Char.ofNat code).val.toNat = code := by
    rw [Char.ofNat, dif_pos valid]
    rfl
  unfold String.utf8EncodeChar
  rw [same]

/-- The marks of a first byte, and the second bytes that go with it: no character is written longer than it has to be,
no half of a pair is one, and none is beyond the last. -/
structure Lead.Fits (lead : Lead) (byte : UInt8) : Prop where
  /-- The first byte is its payload bits after the mark of its length. -/
  marked : lead.more = 0 ∧ lead.payload + 192 = byte.toNat ∧ 2 ≤ lead.payload ∧ lead.payload < 32 ∨
    lead.more = 1 ∧ lead.payload + 224 = byte.toNat ∧ lead.payload < 16 ∨
    lead.more = 2 ∧ lead.payload + 240 = byte.toNat ∧ lead.payload ≤ 4
  /-- The second byte continues a character. -/
  continued : 0x80 ≤ lead.low.toNat ∧ lead.high.toNat ≤ 0xBF
  /-- The second byte of three is not too low or too high. -/
  three : lead.more = 1 → (lead.payload = 0 → 0xA0 ≤ lead.low.toNat) ∧ (lead.payload = 13 → lead.high.toNat ≤ 0x9F)
  /-- The second byte of four is not too low or too high. -/
  four : lead.more = 2 → (lead.payload = 0 → 0x90 ≤ lead.low.toNat) ∧ (lead.payload = 4 → lead.high.toNat ≤ 0x8F)

/-- Every first byte that is taken for one fits. -/
theorem Lead.fits {byte : UInt8} {lead : Lead} (leads : ofByte? byte = some lead) : lead.Fits byte := by
  have five : (byte &&& 0x1F).toNat = byte.toNat % 32 := Nat.and_two_pow_sub_one_eq_mod _ 5
  have four : (byte &&& 0x0F).toNat = byte.toNat % 16 := Nat.and_two_pow_sub_one_eq_mod _ 4
  have three : (byte &&& 0x07).toNat = byte.toNat % 8 := Nat.and_two_pow_sub_one_eq_mod _ 3
  unfold ofByte? at leads
  simp only [UInt8.le_iff_toNat_le, ← UInt8.toNat_inj] at leads
  split_ifs at leads <;> obtain rfl := Option.some.inj leads <;>
    exact ⟨by simp at *; omega, by simp, by simp at *; try omega, by simp at *; try omega⟩

/-- A character that ends here has the bits so far. -/
theorem of_tail_zero {bits : Nat} {bytes rest : List UInt8} {char : Char}
    (read : tail 0 bits bytes = (some char, rest)) : char = Char.ofNat bits ∧ bytes = rest := by
  rw [tail] at read
  obtain ⟨same, left⟩ := Prod.mk.inj read
  exact ⟨(Option.some.inj same).symm, left⟩

/-- A character that goes on has a continuation byte here, and its bits are read on. -/
theorem of_tail_succ {more bits : Nat} {bytes rest : List UInt8} {char : Char}
    (read : tail (more + 1) bits bytes = (some char, rest)) :
    ∃ next left, next < 64 ∧ bytes = UInt8.ofNat (next + 128) :: left ∧
      tail more (bits * 64 + next) left = (some char, rest) := by
  cases bytes with
  | nil => simp [tail] at read
  | cons byte bytes =>
    rw [tail] at read
    by_cases marked : 0x80 ≤ byte ∧ byte ≤ 0xBF
    · rw [if_pos marked] at read
      obtain ⟨whole, few⟩ := eq_continuation marked.1 marked.2
      exact ⟨_, bytes, few, by rw [ofNat_eq whole], read⟩
    · simp [if_neg marked] at read

/-- A character that is read was written in just the bytes that are taken. -/
theorem of_front {byte : UInt8} {bytes rest : List UInt8} {char : Char} (read : front byte bytes = (some char, rest)) :
    byte :: bytes = String.utf8EncodeChar char ++ rest := by
  unfold front at read
  by_cases ascii : byte < 0x80
  · rw [if_pos ascii] at read
    obtain ⟨same, rfl⟩ := Prod.mk.inj read
    obtain rfl := Option.some.inj same
    have few : byte.toNat < 128 := ascii
    rw [utf8EncodeChar_ofNat (by omega), if_pos (by omega), UInt8.ofNat_toNat, List.singleton_append]
  rw [if_neg ascii] at read
  split at read
  · simp at read
  · simp at read
  · rename_i lead second left leads
    by_cases inside : lead.low ≤ second ∧ second ≤ lead.high
    · rw [if_pos inside] at read
      have low : lead.low.toNat ≤ second.toNat := inside.1
      have high : second.toNat ≤ lead.high.toNat := inside.2
      obtain ⟨marked, continued, three, four⟩ := Lead.fits leads
      obtain ⟨whole, few⟩ := @eq_continuation second (UInt8.le_iff_toNat_le.mpr (continued.1.trans low))
        (UInt8.le_iff_toNat_le.mpr (high.trans continued.2))
      rw [← ofNat_eq whole]
      generalize (second &&& 0x3F).toNat = next at *
      rcases marked with ⟨more, here, least, most⟩ | ⟨more, here, most⟩ | ⟨more, here, most⟩
      · rw [more] at read
        obtain ⟨rfl, rfl⟩ := of_tail_zero read
        rw [utf8EncodeChar_ofNat (by omega), if_neg (by omega), if_pos (by omega), ← ofNat_eq here]
        congr <;> omega
      · rw [more] at read
        obtain ⟨third, left, few', rfl, ends⟩ := of_tail_succ read
        obtain ⟨rfl, rfl⟩ := of_tail_zero ends
        rw [utf8EncodeChar_ofNat (by omega), if_neg (by omega), if_neg (by omega), if_pos (by omega), ← ofNat_eq here]
        congr <;> omega
      · rw [more] at read
        obtain ⟨third, after, few', rfl, goes⟩ := of_tail_succ read
        obtain ⟨fourth, left, few'', rfl, ends⟩ := of_tail_succ goes
        obtain ⟨rfl, rfl⟩ := of_tail_zero ends
        rw [utf8EncodeChar_ofNat (by omega), if_neg (by omega), if_neg (by omega), if_neg (by omega), ← ofNat_eq here]
        congr <;> omega
    · simp [if_neg inside] at read

/-- Bytes that are read as characters only are written as the same bytes. -/
theorem flatMap_of_decode {bytes : List UInt8} {chars : List Char} (read : decode bytes = chars.map some) :
    chars.flatMap String.utf8EncodeChar = bytes := by
  fun_induction decode bytes generalizing chars with
  | case1 =>
    obtain rfl := List.map_eq_nil_iff.mp read.symm
    rfl
  | case2 byte bytes ih =>
    cases chars with
    | nil => simp at read
    | cons char chars =>
      obtain ⟨first, later⟩ := List.cons.inj read
      rw [List.flatMap_cons, ih later]
      exact (of_front (Prod.ext first rfl)).symm

/-- All of a list is there if it is a list of characters. -/
theorem mapM_id_eq_some_iff {read : List (Option Char)} {chars : List Char} :
    read.mapM id = some chars ↔ read = chars.map some := by
  induction read generalizing chars with
  | nil => cases chars <;> simp
  | cons first later ih =>
    cases first with
    | none => cases chars <;> simp
    | some char =>
      cases chars with
      | nil => simp [Option.bind_eq_some_iff]
      | cons other chars => simp [Option.bind_eq_some_iff, ih, and_comm]

/-- The text of bytes is the one that is written as these bytes. -/
theorem text?_eq_some_iff {bytes : List UInt8} {text : String} : text? bytes = some text ↔ encode text = bytes := by
  constructor
  · intro read
    obtain ⟨chars, all, rfl⟩ := Option.map_eq_some_iff.mp read
    rw [encode_ofList]
    exact flatMap_of_decode (mapM_id_eq_some_iff.mp all)
  · rintro rfl
    rw [text?, mapM_id_eq_some_iff.mpr (decode_encode text), Option.map_some, String.ofList_toList]

end LiveFlags.Text.Utf8
