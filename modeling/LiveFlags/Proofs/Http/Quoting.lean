import LiveFlags.Proofs.Http.HeaderText
import LiveFlags.Http.Fetcher

/-!
# Versions and entity tags

A tag holds a text between double quotes, and a weak tag has a mark in front (`IsTag`). What either tag says
is the text (`unquote_strong`, `unquote_weak`), and tags are left as they are when they are quoted
(`quote_of_isTag`). A version is taken for a tag by its first characters alone. So a version that begins with
the mark of a weak tag is not put between quotes although it is no tag, and this is the only text of a tag
that does not come back from quoting (`quotes_unless_marked`).
-/
namespace LiveFlags.Http.EntityTag

/-- The character may stand between the quotes of a tag: it is no blank, no double quote and no control
character of ASCII. -/
def isTagChar (char : Char) : Bool := char = '!' || ('#' ≤ char && char ≠ '\x7F')

/-- The text may stand between the quotes of a tag. -/
def isTagText (text : String) : Bool := text.toList.all isTagChar

/-- The strong tag that says the text. -/
def strong (text : String) : String := "\"" ++ text ++ "\""

/-- The weak tag that says the text. -/
def weak (text : String) : String := "W/" ++ strong text

/-- The tags, strong and weak. -/
inductive IsTag : String → Prop where
  /-- A text between quotes. -/
  | strong (text : String) (plain : isTagText text = true) : IsTag (strong text)
  /-- A text between quotes after the mark of a weak tag. -/
  | weak (text : String) (plain : isTagText text = true) : IsTag (weak text)

/-- The text begins with the mark of a weak tag. -/
def Marked (text : String) : Prop := ['W', '/'] <+: text.toList

instance (text : String) : Decidable (Marked text) :=
  inferInstanceAs (Decidable (['W', '/'] <+: text.toList))

variable {text tag : String} {chars : List Char}

/-- The characters of a strong tag. -/
theorem toList_strong (text : String) : (strong text).toList = '"' :: (text.toList ++ ['"']) := by
  simp [strong]

/-- The characters of a weak tag. -/
theorem toList_weak (text : String) : (weak text).toList = 'W' :: '/' :: (strong text).toList := by
  simp [weak]

/-- No double quote stands between the quotes of a tag. -/
theorem not_mem_of_isTagText (plain : isTagText text = true) : '"' ∉ text.toList := by
  intro member
  have legal := List.all_eq_true.mp plain '"' member
  exact absurd legal (by decide)

/-- A text without double quotes is no tag. -/
theorem not_isTag_of_not_mem (bare : '"' ∉ text.toList) : ¬IsTag text := by
  intro isTag
  cases isTag with
  | strong inner => exact bare (by simp [toList_strong])
  | weak inner => exact bare (by simp [toList_weak, toList_strong])

/-- Tags are left as they are. -/
theorem quote_of_isTag (isTag : IsTag tag) : quote tag = tag := by
  cases isTag with
  | strong text =>
    rw [quote, toList_strong]
    rfl
  | weak text =>
    rw [quote, toList_weak]
    rfl

/-- A text that begins with the mark of a weak tag is left as it is. -/
theorem quote_of_marked (marked : Marked text) : quote text = text := by
  obtain ⟨rest, begins⟩ := marked
  rw [quote, ← begins]
  rfl

/-- A text without the mark of a weak tag and without double quotes is put between quotes. -/
theorem quote_of_not_marked (bare : '"' ∉ text.toList) (unmarked : ¬Marked text) : quote text = strong text := by
  unfold quote
  split
  · rename_i begins
    exact absurd (by simp [begins]) bare
  · rename_i rest begins
    exact absurd ⟨rest, begins.symm⟩ unmarked
  · exact String.toList_inj.mp (by simp [toList_strong])

/-- Where another character comes first no quotes are dropped in front. -/
theorem dropWhile_of_bare (bare : '"' ∉ chars) (filled : chars ≠ []) (rest : List Char) :
    (chars ++ rest).dropWhile (· = '"') = chars ++ rest := by
  obtain ⟨char, chars, rfl⟩ := List.exists_cons_of_ne_nil filled
  have other : char ≠ '"' := fun same => bare (by simp [same])
  exact List.dropWhile_cons_of_neg (by simpa using other)

/-- The quotes around characters without quotes are dropped, and nothing else. -/
theorem dropQuotes_between (bare : '"' ∉ chars) : dropQuotes ('"' :: (chars ++ ['"'])) = chars := by
  by_cases filled : chars = []
  · rw [filled]
    rfl
  · have front := dropWhile_of_bare bare filled ['"']
    have back : chars.reverse.dropWhile (· = '"') = chars.reverse := by
      simpa using dropWhile_of_bare (by simpa using bare : '"' ∉ chars.reverse) (by simpa using filled) []
    unfold dropQuotes
    rw [List.dropWhile_cons_of_pos (by decide), front, List.reverse_append, List.reverse_singleton,
      List.singleton_append, List.dropWhile_cons_of_pos (by decide), back, List.reverse_reverse]

/-- A quote is no mark of a weak tag. -/
theorem dropWeakMarks_quote (rest : List Char) : dropWeakMarks ('"' :: rest) = '"' :: rest := by
  rw [dropWeakMarks]
  simp

/-- A strong tag says its text. -/
theorem unquote_strong (bare : '"' ∉ text.toList) : unquote (strong text) = text := by
  rw [unquote, toList_strong]
  rw [dropWeakMarks_quote, dropQuotes_between bare, String.ofList_toList]

/-- A weak tag says its text. -/
theorem unquote_weak (bare : '"' ∉ text.toList) : unquote (weak text) = text := by
  have mark : dropWeakMarks (weak text).toList = dropWeakMarks (strong text).toList := by
    rw [toList_weak, dropWeakMarks]
  rw [unquote, mark, ← unquote, unquote_strong bare]

/-- The mark of a weak tag is lost when a text is taken for a tag. -/
theorem unquote_ne_of_marked (marked : Marked text) : unquote text ≠ text := by
  obtain ⟨rest, begins⟩ := marked
  intro same
  have part : (unquote text).toList.Sublist rest := by
    rw [unquote, String.toList_ofList, ← begins]
    exact (dropQuotes_sublist _).trans (dropWeakMarks_sublist rest)
  have shorter := part.length_le
  rw [same, ← begins] at shorter
  simp only [List.length_append, List.length_cons, List.length_nil] at shorter
  omega

/-- What becomes of a text that can stand in a tag, and of its tags. -/
structure Quotes (text : String) : Prop where
  /-- The text is put between quotes exactly if it does not begin with the mark of a weak tag. -/
  quoted : quote text = strong text ↔ ¬Marked text
  /-- What comes of it is a tag under the same condition; otherwise it is the text as it is. -/
  isTag : IsTag (quote text) ↔ ¬Marked text
  /-- It says the text under the same condition. -/
  back : unquote (quote text) = text ↔ ¬Marked text
  /-- The strong tag of the text says the text. -/
  strong : unquote (strong text) = text
  /-- So does the weak one. -/
  weak : unquote (weak text) = text
  /-- A request that has to name the text as a version names its strong tag, under the same condition. -/
  named : ∀ cached : Cached, cached.entityTag = none →
    (cached.validator (some text) = some (EntityTag.strong text) ↔ ¬Marked text)
  /-- A document without a version that comes with one of the two tags has the text as its version. -/
  versioned : ∀ set : FlagSet, set.version = none →
    (versioned set (some (EntityTag.strong text))).version = some text ∧
      (versioned set (some (EntityTag.weak text))).version = some text

/-- A text that can stand in a tag is quoted and comes back, and its tags say it, except that one which begins
with the mark of a weak tag is not put between quotes, is no tag then and does not come back. Every tag is
left as it is, and a request names the tag that is kept. -/
theorem quotes_unless_marked (text tag : String) :
    (isTagText text = true → Quotes text) ∧
      (IsTag tag → quote tag = tag ∧
        ∀ (cached : Cached) (version : Option String), cached.entityTag = some tag →
          cached.validator version = some tag) := by
  refine ⟨fun plain => ?_, fun isTag => ⟨quote_of_isTag isTag, fun cached version kept => ?_⟩⟩
  · have bare := not_mem_of_isTagText plain
    have differs : strong text ≠ text := by
      intro same
      have longer := congrArg (fun text => text.toList.length) same
      simp only [toList_strong, List.length_cons, List.length_append, List.length_nil] at longer
      omega
    have said := unquote_strong bare
    by_cases marked : Marked text
    · have left := quote_of_marked marked
      have lost := unquote_ne_of_marked marked
      exact {
        quoted := by simp [left, marked, differs.symm]
        isTag := by simp [left, marked, not_isTag_of_not_mem bare]
        back := by simp [left, marked, lost]
        strong := said
        weak := unquote_weak bare
        named := fun cached untagged => by simp [Cached.validator, untagged, left, marked, differs.symm]
        versioned := fun set unversioned => by simp [versioned, unversioned, said, unquote_weak bare] }
    · have quoted := quote_of_not_marked bare marked
      exact {
        quoted := by simp [quoted, marked]
        isTag := by simp [quoted, marked, IsTag.strong text plain]
        back := by simp [quoted, marked, said]
        strong := said
        weak := unquote_weak bare
        named := fun cached untagged => by simp [Cached.validator, untagged, quoted, marked]
        versioned := fun set unversioned => by simp [versioned, unversioned, said, unquote_weak bare] }
  · simp [Cached.validator, kept]

/-- A version with a slash and a letter beyond ASCII is quoted and comes back, the empty one too, and a weak tag
is left as it is. -/
theorem quotes_unless_marked_revision :
    isTagText "w/é!7" = true ∧ quote "w/é!7" = strong "w/é!7" ∧ unquote (quote "w/é!7") = "w/é!7" ∧
      isTagText "" = true ∧ unquote (quote "") = "" ∧ quote (weak "w/é!7") = weak "w/é!7" := by
  obtain ⟨texts, tags⟩ := quotes_unless_marked "w/é!7" (weak "w/é!7")
  have plain : isTagText "w/é!7" = true := by decide
  have unmarked : ¬Marked "w/é!7" := by decide
  have empty : Quotes "" := (quotes_unless_marked "" "").1 (by decide)
  exact ⟨plain, (texts plain).quoted.mpr unmarked, (texts plain).back.mpr unmarked, by decide,
    empty.back.mpr (by decide), (tags (.weak _ plain)).1⟩

/-- A version that begins with the mark of a weak tag can stand in a tag, and a request that has to name it
names it without quotes, which is no tag and says another version. -/
theorem marked_version_unquoted :
    isTagText "W/7" = true ∧ quote "W/7" = "W/7" ∧ quote "W/7" ≠ strong "W/7" ∧
      unquote (quote "W/7") = "7" ∧ unquote (quote "W/7") ≠ "W/7" ∧
      Cached.validator ⟨none, .empty⟩ (some "W/7") = some "W/7" := by
  decide

end LiveFlags.Http.EntityTag
