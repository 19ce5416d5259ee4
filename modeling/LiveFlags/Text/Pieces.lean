/-!
# Pieces between separators

Cutting a text at its separators. There is one piece more than there are separators, so no text has no
pieces (`pieces_ne_nil`), and no piece holds a separator (`not_mem_of_mem_pieces`).
-/
namespace LiveFlags.Text

/-- Puts a character in front of the first piece. -/
def extendFirst (c : Char) : List (List Char) → List (List Char)
  | [] => [[c]]
  | piece :: rest => (c :: piece) :: rest

/-- The pieces between the separators, empty ones too. -/
def pieces (isSeparator : Char → Bool) : List Char → List (List Char)
  | [] => [[]]
  | c :: rest =>
    if isSeparator c then [] :: pieces isSeparator rest
    else extendFirst c (pieces isSeparator rest)

/-- There is at least one piece. -/
theorem pieces_ne_nil (isSeparator : Char → Bool) (chars : List Char) :
    pieces isSeparator chars ≠ [] := by
  cases chars with
  | nil => simp [pieces]
  | cons c rest =>
    simp only [pieces]
    split
    · simp
    · cases pieces isSeparator rest <;> simp [extendFirst]

/-- No piece holds a separator. -/
theorem not_mem_of_mem_pieces {isSeparator : Char → Bool} {chars piece : List Char}
    (h : piece ∈ pieces isSeparator chars) {c : Char} (hc : c ∈ piece) : isSeparator c = false := by
  induction chars generalizing piece with
  | nil => simp_all [pieces]
  | cons d rest ih =>
    simp only [pieces] at h
    split at h
    · cases h with
      | head => simp at hc
      | tail _ h => exact ih h hc
    · rename_i hd
      cases hp : pieces isSeparator rest with
      | nil => exact absurd hp (pieces_ne_nil _ _)
      | cons first others =>
        rw [hp] at h ih
        cases h with
        | head =>
          cases hc with
          | head => simpa using hd
          | tail _ hc => exact ih (List.mem_cons_self ..) hc
        | tail _ h => exact ih (List.mem_cons_of_mem _ h) hc

end LiveFlags.Text
