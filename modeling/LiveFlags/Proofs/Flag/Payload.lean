import LiveFlags.Flag.Set
import LiveFlags.Proofs.Text.Blank
import Mathlib.Data.List.Perm.Basic

/-!
# Well-formed flags

What a set of flags has to be like before it is taken over is said here without the check: every key has
between one and 256 bytes, none of its characters is white space or a control character, and no value is a
bare `null` (`Flags.WellFormed`). A flag that is not like that deserves one error (`Deserves`). The check
goes through the flags in some order and stops at the first that is refused; whatever the order, it accepts
just the well-formed sets and names what a flag of the set deserves (`screened`).
-/
namespace LiveFlags

/-- The character is white space or a control character. -/
def Text.Unprintable (char : Char) : Prop :=
  char.toNat ∈ whiteSpace ∨ char.toNat < 0x20 ∨ 0x7F ≤ char.toNat ∧ char.toNat < 0xA0

/-- What a key has to be like. -/
structure WellFormedKey (key : String) : Prop where
  /-- It is not empty. -/
  nonempty : 1 ≤ key.utf8ByteSize
  /-- It is not too long. -/
  bounded : key.utf8ByteSize ≤ 256
  /-- It has no white space and no control characters. -/
  printable : ∀ char ∈ key.toList, ¬Text.Unprintable char

/-- What flags have to be like. -/
def Flags.WellFormed (flags : Flags) : Prop :=
  ∀ entry ∈ flags.entries, WellFormedKey entry.1 ∧ entry.2 ≠ .json .null

/-- The error that a key deserves: what is wrong with its length comes before what is wrong with its
characters. -/
inductive KeyFault (key : String) : PayloadError → Prop where
  /-- The key is empty. -/
  | empty (none : key.utf8ByteSize = 0) : KeyFault key .emptyKey
  /-- The key is too long. -/
  | tooLong (many : 256 < key.utf8ByteSize) : KeyFault key (.keyTooLong key)
  /-- The key has white space or a control character. -/
  | unprintable (some : 1 ≤ key.utf8ByteSize) (few : key.utf8ByteSize ≤ 256) (char : Char)
      (member : char ∈ key.toList) (bad : Text.Unprintable char) : KeyFault key (.invalidKey key)

/-- The error that a flag deserves: what is wrong with its key comes before what is wrong with its value. -/
inductive Deserves (key : String) (value : FlagValue) : PayloadError → Prop where
  /-- Something is wrong with the key. -/
  | key {error : PayloadError} (fault : KeyFault key error) : Deserves key value error
  /-- The value is a bare `null`. -/
  | nullValue (wellFormed : WellFormedKey key) (null : value = .json .null) :
    Deserves key value (.nullValue key)

variable {key : String} {value : FlagValue} {error other : PayloadError} {set : FlagSet}
  {order : List (String × FlagValue)}

section Key

/-- The characters that the check refuses are those that are white space or control characters. -/
theorem Text.unprintable_iff (char : Char) :
    (isBlank char || isControl char) = true ↔ Text.Unprintable char := by
  rw [Bool.or_eq_true, Text.isBlank_iff, Text.isControl_iff]
  exact Iff.rfl

/-- A key that is empty has no bytes. -/
theorem isEmpty_iff_utf8ByteSize : key.isEmpty = true ↔ key.utf8ByteSize = 0 := by
  rw [String.isEmpty_iff, String.utf8ByteSize_eq_zero_iff]

/-- The check of a key passes it if it is well formed, and otherwise says what it deserves. -/
theorem validateKey_cases (key : String) :
    validateKey key = .ok () ∧ WellFormedKey key ∨
      ∃ error, validateKey key = .error error ∧ KeyFault key error := by
  unfold validateKey
  split
  · rename_i empty
    exact .inr ⟨_, rfl, .empty (isEmpty_iff_utf8ByteSize.mp empty)⟩
  · rename_i some
    have nonempty : 1 ≤ key.utf8ByteSize :=
      Nat.one_le_iff_ne_zero.mpr fun none => some (isEmpty_iff_utf8ByteSize.mpr none)
    split
    · rename_i many
      exact .inr ⟨_, rfl, .tooLong many⟩
    · rename_i few
      have bounded : key.utf8ByteSize ≤ 256 := Nat.not_lt.mp few
      split
      · rename_i found
        obtain ⟨char, member, bad⟩ := List.any_eq_true.mp found
        exact .inr ⟨_, rfl, .unprintable nonempty bounded char member ((Text.unprintable_iff char).mp bad)⟩
      · rename_i none
        refine .inl ⟨rfl, nonempty, bounded, fun char member bad => none ?_⟩
        exact List.any_eq_true.mpr ⟨char, member, (Text.unprintable_iff char).mpr bad⟩

/-- A well-formed key deserves no error. -/
theorem KeyFault.not_wellFormed (fault : KeyFault key error) : ¬WellFormedKey key := by
  rintro ⟨nonempty, bounded, printable⟩
  cases fault with
  | empty none => omega
  | tooLong many => omega
  | unprintable _ _ char member bad => exact printable char member bad

/-- A key deserves one error only. -/
theorem KeyFault.eq (fault : KeyFault key error) (fault' : KeyFault key other) : error = other := by
  cases fault with
  | empty => cases fault' with
    | empty => rfl
    | tooLong | unprintable => omega
  | tooLong => cases fault' with
    | tooLong => rfl
    | empty | unprintable => omega
  | unprintable => cases fault' with
    | unprintable => rfl
    | empty | tooLong => omega

/-- The check of a key passes just the well-formed ones. -/
theorem validateKey_eq_ok_iff : validateKey key = .ok () ↔ WellFormedKey key := by
  rcases validateKey_cases key with ⟨passed, wellFormed⟩ | ⟨error, refused, fault⟩
  · exact iff_of_true passed wellFormed
  · exact iff_of_false (by simp [refused]) fault.not_wellFormed

end Key

section Flag

/-- The check of a flag passes it if its key is well formed and its value is not a bare `null`, and otherwise says
what it deserves. -/
theorem validateFlag_cases (key : String) (value : FlagValue) :
    validateFlag key value = .ok () ∧ WellFormedKey key ∧ value ≠ .json .null ∨
      ∃ error, validateFlag key value = .error error ∧ Deserves key value error := by
  unfold validateFlag
  rcases validateKey_cases key with ⟨passed, wellFormed⟩ | ⟨error, refused, fault⟩
  · rw [passed]
    split
    · contradiction
    · exact .inr ⟨_, rfl, .nullValue wellFormed rfl⟩
    · rename_i present
      exact .inl ⟨rfl, wellFormed, present⟩
  · rw [refused]
    exact .inr ⟨error, rfl, .key fault⟩

/-- A flag that deserves an error has a key that is not well formed, or is a bare `null`. -/
theorem Deserves.not_wellFormed (deserves : Deserves key value error) :
    ¬(WellFormedKey key ∧ value ≠ .json .null) := by
  rintro ⟨wellFormed, present⟩
  cases deserves with
  | key fault => exact fault.not_wellFormed wellFormed
  | nullValue _ null => exact present null

/-- A flag deserves one error only. -/
theorem Deserves.eq (deserves : Deserves key value error) (deserves' : Deserves key value other) :
    error = other := by
  cases deserves with
  | key fault =>
    cases deserves' with
    | key fault' => exact fault.eq fault'
    | nullValue wellFormed _ => exact absurd wellFormed fault.not_wellFormed
  | nullValue wellFormed _ =>
    cases deserves' with
    | key fault => exact absurd wellFormed fault.not_wellFormed
    | nullValue => rfl

/-- The check of a flag passes just the well-formed ones. -/
theorem validateFlag_eq_ok_iff :
    validateFlag key value = .ok () ↔ WellFormedKey key ∧ value ≠ .json .null := by
  rcases validateFlag_cases key value with ⟨passed, wellFormed⟩ | ⟨error, refused, deserves⟩
  · exact iff_of_true passed wellFormed
  · exact iff_of_false (by simp [refused]) deserves.not_wellFormed

/-- The check of a flag says what the flag deserves. -/
theorem validateFlag_eq_error_iff : validateFlag key value = .error error ↔ Deserves key value error := by
  rcases validateFlag_cases key value with ⟨passed, wellFormed⟩ | ⟨other, refused, deserves⟩
  · exact iff_of_false (by simp [passed]) fun deserves => deserves.not_wellFormed wellFormed
  · rw [refused]
    exact ⟨fun same => Except.error.inj same ▸ deserves, fun deserves' => congrArg _ (deserves.eq deserves')⟩

end Flag

section Order

/-- Checking flags one after the other passes them if all of them are well formed. -/
theorem validateEntries_eq_ok_iff :
    validateEntries order = .ok () ↔ ∀ entry ∈ order, WellFormedKey entry.1 ∧ entry.2 ≠ .json .null := by
  induction order with
  | nil => simp [validateEntries]
  | cons entry order ih =>
    rw [List.forall_mem_cons, ← validateFlag_eq_ok_iff, ← ih, validateEntries]
    cases validateFlag entry.1 entry.2 with
    | ok => simp
    | error error => simp

/-- Checking flags one after the other says what the first deserves that is not well formed. -/
theorem validateEntries_eq_error_iff :
    validateEntries order = .error error ↔ ∃ front entry back, order = front ++ entry :: back ∧
      (∀ earlier ∈ front, WellFormedKey earlier.1 ∧ earlier.2 ≠ .json .null) ∧ Deserves entry.1 entry.2 error := by
  induction order with
  | nil => simp [validateEntries]
  | cons entry order ih =>
    rw [validateEntries]
    cases checked : validateFlag entry.1 entry.2 with
    | error first =>
      have deserves := validateFlag_eq_error_iff.mp checked
      constructor
      · intro same
        obtain rfl := Except.error.inj same
        exact ⟨[], entry, order, rfl, by simp, deserves⟩
      · rintro ⟨front, culprit, back, split, passed, blamed⟩
        cases front with
        | nil =>
          obtain ⟨rfl, rfl⟩ := List.cons.inj split
          exact congrArg _ (deserves.eq blamed)
        | cons earlier front =>
          obtain ⟨rfl, _⟩ := List.cons.inj split
          exact absurd (passed entry List.mem_cons_self) deserves.not_wellFormed
    | ok =>
      have wellFormed := validateFlag_eq_ok_iff.mp checked
      dsimp only
      rw [ih]
      constructor
      · rintro ⟨front, culprit, back, rfl, passed, blamed⟩
        exact ⟨entry :: front, culprit, back, rfl, List.forall_mem_cons.mpr ⟨wellFormed, passed⟩, blamed⟩
      · rintro ⟨front, culprit, back, split, passed, blamed⟩
        cases front with
        | nil =>
          obtain ⟨rfl, rfl⟩ := List.cons.inj split
          exact absurd wellFormed blamed.not_wellFormed
        | cons earlier front =>
          obtain ⟨rfl, rfl⟩ := List.cons.inj split
          exact ⟨front, culprit, back, rfl, (List.forall_mem_cons.mp passed).2, blamed⟩

/-- The check of a set passes just the well-formed ones. -/
theorem FlagSet.validate_eq_ok_iff : set.validate = .ok () ↔ set.flags.WellFormed :=
  validateEntries_eq_ok_iff

/-- What checking the flags of a set in some order says of the set. -/
structure Screened (set : FlagSet) (order : List (String × FlagValue)) : Prop where
  /-- The set passes if it is well formed. -/
  passes : validateEntries order = .ok () ↔ set.flags.WellFormed
  /-- The error is the one that a flag of the set deserves, and the flag deserves no other. -/
  names : ∀ error, validateEntries order = .error error → ∃ key value, set.flags.get? key = some value ∧
    Deserves key value error ∧ ∀ other, Deserves key value other → other = error
  /-- Whether the set passes does not depend on the order. -/
  agrees : (validateEntries order).isOk = set.validate.isOk
  /-- What any flag of the set deserves is the error in some order. -/
  reaches : ∀ key value error, set.flags.get? key = some value → Deserves key value error →
    ∃ other : List (String × FlagValue), other.Perm order ∧ validateEntries other = .error error

/-- In whatever order the flags of a set are checked, the set passes if it is well formed, and the error is what
one of its flags deserves. -/
theorem screened (same : order.Perm set.flags.entries) : Screened set order := by
  have passes : validateEntries order = .ok () ↔ set.flags.WellFormed := by
    rw [validateEntries_eq_ok_iff]
    exact forall_congr' fun entry => imp_congr_left same.mem_iff
  refine ⟨passes, fun error refused => ?_, ?_, fun key value error found deserves => ?_⟩
  · obtain ⟨front, ⟨key, value⟩, back, split, _, deserves⟩ := validateEntries_eq_error_iff.mp refused
    have member : (key, value) ∈ set.flags.entries := same.mem_iff.mp (by simp [split])
    exact ⟨key, value, Table.get?_eq_some_iff.mpr member, deserves, fun other blamed => blamed.eq deserves⟩
  · rw [← FlagSet.validate_eq_ok_iff] at passes
    cases mine : validateEntries order with
    | ok => rw [passes.mp mine]
    | error error =>
      cases own : set.validate with
      | ok => simp [passes.mpr own] at mine
      | error => rfl
  · have member : (key, value) ∈ order := same.mem_iff.mpr (Table.get?_eq_some_iff.mp found)
    obtain ⟨front, back, rfl⟩ := List.append_of_mem member
    refine ⟨(key, value) :: (front ++ back), List.perm_middle.symm, ?_⟩
    exact validateEntries_eq_error_iff.mpr ⟨[], _, _, rfl, by simp, deserves⟩

end Order

end LiveFlags
