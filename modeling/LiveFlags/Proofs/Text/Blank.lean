import LiveFlags.Text.Blank
import Mathlib.Data.List.TakeWhile

/-!
# White space

The white space is listed here code point by code point (`Text.whiteSpace`). What remains of a list without the
elements of some kind at its ends is told by what surrounds it (`Text.Strips`), and there is one such rest
(`Text.strips_iff`). So a text is trimmed of the white space at its ends (`Text.trims_iff`).
-/
namespace LiveFlags.Text

/-- The code points of the characters with the Unicode property `White_Space`. -/
def whiteSpace : List Nat :=
  [0x09, 0x0A, 0x0B, 0x0C, 0x0D, 0x20, 0x85, 0xA0, 0x1680, 0x2000, 0x2001, 0x2002, 0x2003, 0x2004, 0x2005,
    0x2006, 0x2007, 0x2008, 0x2009, 0x200A, 0x2028, 0x2029, 0x202F, 0x205F, 0x3000]

/-- The blanks are the characters with the property `White_Space`. -/
theorem isBlank_iff (char : Char) : isBlank char = true ↔ char.toNat ∈ whiteSpace := by
  simp only [isBlank, Bool.or_eq_true, Bool.and_eq_true, decide_eq_true_eq, beq_iff_eq,
    UInt32.le_iff_toNat_le, ← UInt32.toNat_inj, UInt32.reduceToNat, whiteSpace, List.mem_cons,
    List.not_mem_nil, or_false, Char.toNat]
  omega

/-- The control characters are the 32 before the blank and the 33 from the delete character on. -/
theorem isControl_iff (char : Char) :
    isControl char = true ↔ char.toNat < 0x20 ∨ 0x7F ≤ char.toNat ∧ char.toNat < 0xA0 := by
  simp only [isControl, Bool.or_eq_true, Bool.and_eq_true, decide_eq_true_eq, UInt32.le_iff_toNat_le,
    UInt32.reduceToNat, Char.toNat]
  omega

/-- What remains of a list without the elements of some kind at its ends. -/
structure Strips {α : Type} (outer : α → Prop) (list core : List α) : Prop where
  /-- Only elements of this kind stand before and after it. -/
  between : ∃ before after, list = before ++ (core ++ after) ∧
    (∀ element ∈ before, outer element) ∧ ∀ element ∈ after, outer element
  /-- It begins with none. -/
  begins : ∀ element ∈ core.head?, ¬outer element
  /-- It ends with none. -/
  ends : ∀ element ∈ core.getLast?, ¬outer element

section Strips

variable {α : Type} {outer : α → Prop} {cut : α → Bool} (decides : ∀ element, cut element = true ↔ outer element)
  {list core : List α}

include decides

/-- A list that begins with an element of another kind keeps its front. -/
theorem dropWhile_eq_self (begins : ∀ element ∈ list.head?, ¬outer element) : list.dropWhile cut = list := by
  cases list with
  | nil => rfl
  | cons element rest => exact List.dropWhile_cons_of_neg (mt (decides element).mp (begins element rfl))

/-- A list whose front has been dropped begins with an element of another kind. -/
theorem not_outer_of_head?_dropWhile {element : α} (first : (list.dropWhile cut).head? = some element) :
    ¬outer element := by
  have kept := List.head?_dropWhile_not cut list
  rw [first] at kept
  exact fun member => Bool.false_ne_true (kept.symm.trans ((decides element).mpr member))

/-- What remains is left when the elements of this kind are dropped at one end and then at the other. -/
theorem strips_iff : Strips outer list core ↔ core = ((list.dropWhile cut).reverse.dropWhile cut).reverse := by
  constructor
  · rintro ⟨⟨before, after, rfl, inside, inside'⟩, begins, ends⟩
    rw [List.dropWhile_append_of_pos fun element member => (decides element).mpr (inside element member)]
    by_cases none : core = []
    · have nothing : after.dropWhile cut = [] :=
        List.dropWhile_eq_nil_iff.mpr fun element member => (decides element).mpr (inside' element member)
      rw [none, List.nil_append, nothing]
      rfl
    · have first : (core ++ after).dropWhile cut = core ++ after := by
        apply dropWhile_eq_self decides
        rw [List.head?_append, Option.or_of_isSome (List.isSome_head?.mpr none)]
        exact begins
      have last : core.reverse.dropWhile cut = core.reverse := by
        apply dropWhile_eq_self decides
        rw [List.head?_reverse]
        exact ends
      have blank : ∀ element ∈ after.reverse, cut element = true :=
        fun element member => (decides element).mpr (inside' element (List.mem_reverse.mp member))
      rw [first, List.reverse_append, List.dropWhile_append_of_pos blank, last, List.reverse_reverse]
  · rintro rfl
    have inside : ∀ {element : α} {list : List α}, element ∈ list.takeWhile cut → outer element :=
      fun member => (decides _).mp (List.all_eq_true.mp List.all_takeWhile _ member)
    have rest : ((list.dropWhile cut).reverse.dropWhile cut).reverse ++
        ((list.dropWhile cut).reverse.takeWhile cut).reverse = list.dropWhile cut := by
      rw [← List.reverse_append, List.takeWhile_append_dropWhile, List.reverse_reverse]
    constructor
    case between =>
      refine ⟨list.takeWhile cut, ((list.dropWhile cut).reverse.takeWhile cut).reverse, ?_, ?_, ?_⟩
      · rw [rest, List.takeWhile_append_dropWhile]
      · exact fun element member => inside member
      · exact fun element member => inside (List.mem_reverse.mp member)
    case begins =>
      intro element first
      apply not_outer_of_head?_dropWhile decides
      rw [← rest, List.head?_append, first, Option.some_or]
    case ends =>
      intro element last
      rw [List.getLast?_reverse] at last
      exact not_outer_of_head?_dropWhile decides last

end Strips

/-- What remains of a text without the white space at its ends. -/
abbrev Trims (chars core : List Char) : Prop := Strips (fun char => char.toNat ∈ whiteSpace) chars core

/-- What remains of a text without the white space at its ends is what is trimmed. -/
theorem trims_iff {chars core : List Char} : Trims chars core ↔ core = trimChars chars := strips_iff isBlank_iff

end LiveFlags.Text
