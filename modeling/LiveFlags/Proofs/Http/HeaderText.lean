import LiveFlags.Http.EntityTag
import LiveFlags.Http.Message
import LiveFlags.Proofs.Text.Blank
import LiveFlags.Proofs.Text.Utf8

/-!
# Text in headers

A text can be the value of a header exactly if none of its characters is a control character other than
the tab (`isLegalHeader_encode`). Quotes around a version do not change that (`isHeaderText_quote`), and
a text that has been read from a header, such as an entity tag, can always be sent in one
(`isHeaderText_of_headerText?`). Which text an answer has as its entity tag, and what a tag says, is told by
the characters of the header and of the tag (`Answer.Carries`, `EntityTag.Tells`).
-/
namespace LiveFlags.Http

/-- The character may stand in the value of a header. -/
def isHeaderChar (char : Char) : Bool := char = '\t' || (' ' ≤ char && char ≠ '\x7F')

/-- The text may be the value of a header. -/
def isHeaderText (text : String) : Bool := text.toList.all isHeaderChar

/-- The bytes of a character may stand in a header exactly if the character may. -/
theorem all_isHeaderByte_utf8EncodeChar (char : Char) :
    (String.utf8EncodeChar char).all isHeaderByte = isHeaderChar char := by
  by_cases ascii : char.val.toNat ≤ 127
  · have all : ∀ code < 128, (String.utf8EncodeChar (Char.ofNat code)).all isHeaderByte =
        isHeaderChar (Char.ofNat code) := by decide
    have here := all char.toNat (Nat.lt_succ_of_le ascii)
    rwa [Char.ofNat_toNat] at here
  · have beyond : 127 < char.val.toNat := Nat.lt_of_not_le ascii
    have bytes : (String.utf8EncodeChar char).all isHeaderByte = true := by
      refine List.all_eq_true.mpr fun byte member => ?_
      have wide := Text.Utf8.le_of_mem_utf8EncodeChar beyond member
      rw [UInt8.le_iff_toNat_le] at wide
      simp only [isHeaderByte, Bool.or_eq_true, Bool.and_eq_true, decide_eq_true_eq,
        UInt8.le_iff_toNat_le, ← UInt8.toNat_inj, ne_eq]
      exact .inr ⟨Nat.le_trans (by decide) wide, fun same => by simp [same] at wide⟩
    have inside : isHeaderChar char = true := by
      simp only [isHeaderChar, Bool.or_eq_true, Bool.and_eq_true, decide_eq_true_eq, Char.le_def,
        UInt32.le_iff_toNat_le, ne_eq]
      refine .inr ⟨Nat.le_trans (by decide) (Nat.le_of_lt beyond), ?_⟩
      rintro rfl
      exact absurd beyond (by decide)
    rw [bytes, inside]

/-- The bytes of a text may be the value of a header exactly if the text may. -/
theorem isLegalHeader_encode (text : String) :
    isLegalHeader (Text.Utf8.encode text) = isHeaderText text := by
  rw [isLegalHeader, Text.Utf8.encode_eq, List.all_flatMap, isHeaderText]
  simp only [all_isHeaderByte_utf8EncodeChar]

/-- Two texts in a row may be the value of a header exactly if both may. -/
theorem isHeaderText_append (first last : String) :
    isHeaderText (first ++ last) = (isHeaderText first && isHeaderText last) := by
  simp [isHeaderText]

/-- A version in quotes may be the value of a header exactly if the version may. -/
theorem isHeaderText_quote (version : String) :
    isHeaderText (EntityTag.quote version) = isHeaderText version := by
  unfold EntityTag.quote
  split
  · rfl
  · rfl
  · simp [isHeaderText, isHeaderChar]

/-- No marks are added to the characters of a tag. -/
theorem dropWeakMarks_sublist (chars : List Char) : (EntityTag.dropWeakMarks chars).Sublist chars := by
  fun_induction EntityTag.dropWeakMarks chars with
  | case1 rest ih => exact (ih.cons '/').cons 'W'
  | case2 chars => exact List.Sublist.refl chars

/-- No quotes are added to the characters of a tag. -/
theorem dropQuotes_sublist (chars : List Char) : (EntityTag.dropQuotes chars).Sublist chars := by
  unfold EntityTag.dropQuotes
  have front := List.dropWhile_sublist (l := chars) (· = '"')
  have back := (List.dropWhile_sublist (l := (chars.dropWhile (· = '"')).reverse) (· = '"')).reverse
  rw [List.reverse_reverse] at back
  exact back.trans front

/-- What a tag says may be the value of a header if the tag may. -/
theorem isHeaderText_unquote {tag : String} (plain : isHeaderText tag = true) :
    isHeaderText (EntityTag.unquote tag) = true := by
  rw [isHeaderText, EntityTag.unquote, String.toList_ofList]
  have part := (dropQuotes_sublist _).trans (dropWeakMarks_sublist tag.toList)
  exact List.all_eq_true.mpr fun char member => List.all_eq_true.mp plain char (part.subset member)

namespace EntityTag

/-- What a tag says: what remains of it without the marks of weak tags in front, and then without the quotes at
its ends. -/
def Tells (tag said : String) : Prop :=
  ∃ marks rest, tag.toList = (List.replicate marks ['W', '/']).flatten ++ rest ∧ ¬['W', '/'] <+: rest ∧
    Text.Strips (· = '"') rest said.toList

/-- No mark is dropped of a text that begins with none. -/
theorem dropWeakMarks_eq_self {chars : List Char} (unmarked : ¬['W', '/'] <+: chars) :
    dropWeakMarks chars = chars := by
  unfold dropWeakMarks
  split
  · exact absurd ⟨_, rfl⟩ unmarked
  · rfl

/-- Every mark in front is dropped. -/
theorem dropWeakMarks_append (marks : Nat) (rest : List Char) :
    dropWeakMarks ((List.replicate marks ['W', '/']).flatten ++ rest) = dropWeakMarks rest := by
  induction marks with
  | zero => rfl
  | succ marks ih =>
    rw [List.replicate_succ, List.flatten_cons, List.append_assoc]
    change dropWeakMarks ('W' :: '/' :: ((List.replicate marks ['W', '/']).flatten ++ rest)) = _
    rw [dropWeakMarks, ih]

/-- A text is the marks in front of it and what is left without them. -/
theorem exists_dropWeakMarks (chars : List Char) :
    (∃ marks, chars = (List.replicate marks ['W', '/']).flatten ++ dropWeakMarks chars) ∧
      ¬['W', '/'] <+: dropWeakMarks chars := by
  fun_induction dropWeakMarks chars with
  | case1 rest ih =>
    obtain ⟨⟨marks, same⟩, unmarked⟩ := ih
    refine ⟨⟨marks + 1, ?_⟩, unmarked⟩
    rw [List.replicate_succ, List.flatten_cons, List.append_assoc, ← same]
    rfl
  | case2 chars other =>
    refine ⟨⟨0, rfl⟩, ?_⟩
    rintro ⟨rest, same⟩
    exact other rest same.symm

/-- A tag says what is taken as its version. -/
theorem tells_iff {tag said : String} : Tells tag said ↔ said = unquote tag := by
  have strips : ∀ rest, Text.Strips (· = '"') rest said.toList ↔ said.toList = dropQuotes rest :=
    fun rest => Text.strips_iff fun char => decide_eq_true_iff
  rw [unquote, ← String.toList_inj, String.toList_ofList]
  constructor
  · rintro ⟨marks, rest, same, unmarked, core⟩
    rw [same, dropWeakMarks_append, dropWeakMarks_eq_self unmarked]
    exact (strips rest).mp core
  · intro same
    obtain ⟨⟨marks, whole⟩, unmarked⟩ := exists_dropWeakMarks tag.toList
    exact ⟨marks, _, whole, unmarked, (strips _).mpr same⟩

end EntityTag

/-- The version under which a document is brought: its own, or else what the entity tag says, or else none. -/
inductive VersionOf (own tag : Option String) : Option String → Prop
  /-- The document has a version. -/
  | own {version : String} (has : own = some version) : VersionOf own tag (some version)
  /-- The tag takes its place. -/
  | said {text version : String} (bare : own = none) (tagged : tag = some text)
    (tells : EntityTag.Tells text version) : VersionOf own tag (some version)
  /-- There is neither. -/
  | none (bare : own = none) (untagged : tag = none) : VersionOf own tag none

/-- A document is brought under one version. -/
theorem versionOf_iff {own tag version : Option String} :
    VersionOf own tag version ↔ version = own.or (tag.map EntityTag.unquote) := by
  constructor
  · intro brought
    cases brought with
    | own has => rw [has, Option.some_or]
    | said bare tagged tells => rw [bare, tagged, Option.none_or, Option.map_some, EntityTag.tells_iff.mp tells]
    | none bare untagged => rw [bare, untagged, Option.none_or, Option.map_none]
  · rintro rfl
    cases own with
    | some version => exact .own rfl
    | none =>
      cases tag with
      | some text => exact .said rfl rfl (EntityTag.tells_iff.mpr rfl)
      | none => exact .none rfl rfl

/-- The answer has the text as its entity tag: its first header with this name, in any case of its letters, has
the text between blanks, and the text consists of tabs, blanks and printable characters of ASCII. -/
structure Answer.Carries (answer : Answer) (tag : String) : Prop where
  /-- The text stands in the header. -/
  header : ∃ before name value after, answer.headers = before ++ (name, value) :: after ∧
    name.toLower = "etag" ∧ (∀ header ∈ before, header.1.toLower ≠ "etag") ∧
    Text.Strips (fun byte => byte = 0x20 ∨ byte = 0x09) value (Text.Utf8.encode tag)
  /-- It is plain. -/
  plain : ∀ byte ∈ Text.Utf8.encode tag, byte = 0x09 ∨ 0x20 ≤ byte.toNat ∧ byte.toNat < 0x7F

/-- The text of a header value is written as the same value again. -/
theorem encode_of_headerText? {value : HeaderValue} {text : String} (read : headerText? value = some text) :
    value.all isTextByte = true ∧ Text.Utf8.encode text = value := by
  unfold headerText? at read
  split at read
  · rename_i plain
    exact ⟨plain, Text.Utf8.text?_eq_some_iff.mp read⟩
  · contradiction

/-- A header value is a text exactly if its bytes are plain and those of the text. -/
theorem headerText?_eq_some_iff {value : HeaderValue} {text : String} : headerText? value = some text ↔
    value = Text.Utf8.encode text ∧ ∀ byte ∈ value, byte = 0x09 ∨ 0x20 ≤ byte.toNat ∧ byte.toNat < 0x7F := by
  have plain : ∀ byte : UInt8, isTextByte byte = true ↔ byte = 0x09 ∨ 0x20 ≤ byte.toNat ∧ byte.toNat < 0x7F := by
    intro byte
    simp only [isTextByte, Bool.or_eq_true, Bool.and_eq_true, decide_eq_true_eq, UInt8.le_iff_toNat_le,
      UInt8.lt_iff_toNat_lt]
    rfl
  have all : value.all isTextByte = true ↔ ∀ byte ∈ value, byte = 0x09 ∨ 0x20 ≤ byte.toNat ∧ byte.toNat < 0x7F := by
    rw [List.all_eq_true]
    exact forall₂_congr fun byte _ => plain byte
  rw [← all]
  constructor
  · intro read
    obtain ⟨plain, written⟩ := encode_of_headerText? read
    exact ⟨written.symm, plain⟩
  · rintro ⟨rfl, plain⟩
    rw [headerText?, if_pos plain]
    exact Text.Utf8.text?_eq_some_iff.mpr rfl

/-- An answer has one entity tag at most, and it is the one that is read. -/
theorem Answer.carries_iff {answer : Answer} {tag : String} :
    answer.Carries tag ↔ answer.entityTag? = some tag := by
  have name : "ETag".toLower = "etag" := by decide +kernel
  have strips : ∀ value core, Text.Strips (fun byte => byte = 0x20 ∨ byte = 0x09) value core ↔
      core = ((value.dropWhile isHeaderBlank).reverse.dropWhile isHeaderBlank).reverse := by
    refine fun value core => Text.strips_iff fun byte => ?_
    rw [isHeaderBlank, Bool.or_eq_true, decide_eq_true_iff, decide_eq_true_iff]
  unfold entityTag? header?
  rw [Option.bind_eq_some_iff, name]
  constructor
  · rintro ⟨⟨before, header, value, after, headers, named, others, core⟩, plain⟩
    have found : answer.headers.find? (fun header => header.1.toLower = "etag") = some (header, value) := by
      rw [headers, List.find?_append, List.find?_eq_none.mpr (by simpa using others), Option.none_or,
        List.find?_cons_of_pos (by simpa using named)]
    refine ⟨Text.Utf8.encode tag, ?_, headerText?_eq_some_iff.mpr ⟨rfl, plain⟩⟩
    rw [found, Option.map_some]
    exact congrArg some ((strips _ _).mp core).symm
  · rintro ⟨core, came, read⟩
    obtain ⟨rfl, plain⟩ := headerText?_eq_some_iff.mp read
    obtain ⟨⟨header, value⟩, found, same⟩ := Option.map_eq_some_iff.mp came
    obtain ⟨named, before, after, headers, others⟩ := List.find?_eq_some_iff_append.mp found
    exact ⟨⟨before, header, value, after, headers, by simpa using named, by simpa using others,
      (strips _ _).mpr same.symm⟩, plain⟩

/-- The text of a header value may be the value of a header. -/
theorem isHeaderText_of_headerText? {value : HeaderValue} {text : String}
    (read : headerText? value = some text) : isHeaderText text = true := by
  obtain ⟨plain, written⟩ := encode_of_headerText? read
  rw [← isLegalHeader_encode, written]
  refine List.all_eq_true.mpr fun byte member => ?_
  have legal := List.all_eq_true.mp plain byte member
  simp only [isTextByte, isHeaderByte, Bool.or_eq_true, Bool.and_eq_true, decide_eq_true_eq, ne_eq]
    at legal ⊢
  exact legal.imp_right fun ⟨least, below⟩ => ⟨least, fun same => by simp [same] at below⟩

end LiveFlags.Http
