import LiveFlags.Proofs.Json.Tokens
import LiveFlags.Proofs.Table

/-!
# Reading values back

The compact text of a value is read back as the value (`readsBack_of_legible`), wherever a value can end. A
value is legible (`Value.Legible`) if it does not nest too deep, if its objects are in the order of their
names, and if each of its numbers is read back from its own text. Whole numbers are
(`legible_integer`); a double is where its shortest digits come back to it in the few roundings that
reading takes.
-/
namespace LiveFlags.Json

variable {depth fuel : Nat} {input rest : Input} {symbol : Option Char}

/-- A character that is no white space is the first to be read. -/
theorem skipSpace_of_solid (solid : isSpace symbol = false) (rest : Input) :
    skipSpace (symbol :: rest) = symbol :: rest :=
  List.dropWhile_cons_of_neg (by rw [solid]; decide)

/-- White space is passed over once. -/
theorem skipSpace_skipSpace (input : Input) : skipSpace (skipSpace input) = skipSpace input := by
  induction input with
  | nil => rfl
  | cons head input ih =>
    cases solid : isSpace head with
    | true =>
      have passed : skipSpace (head :: input) = skipSpace input := List.dropWhile_cons_of_pos solid
      rw [passed, ih]
    | false => rw [skipSpace_of_solid solid, skipSpace_of_solid solid]

/-- White space in front of something is passed over, whatever follows. -/
theorem skipSpace_append (front : skipSpace input = symbol :: rest) (more : Input) :
    skipSpace (input ++ more) = symbol :: (rest ++ more) := by
  induction input with
  | nil => cases front
  | cons head input ih =>
    unfold skipSpace at front ih ⊢
    rw [List.cons_append]
    cases solid : isSpace head with
    | true =>
      rw [List.dropWhile_cons_of_pos solid] at front ⊢
      exact ih front
    | false =>
      rw [List.dropWhile_cons_of_neg (by rw [solid]; decide)] at front ⊢
      obtain ⟨rfl, rfl⟩ := List.cons.inj front
      rfl

/-- A value is read from its first character that is not white space. -/
theorem valueWithin_skipSpace (depth fuel : Nat) (input : Input) :
    valueWithin depth fuel (skipSpace input) = valueWithin depth fuel input := by
  cases fuel with
  | zero => rfl
  | succ fuel => rw [valueWithin, valueWithin, skipSpace_skipSpace]

/-- The elements of an array are read from the first character that is not white space. -/
theorem elementsWithin_skipSpace (depth fuel : Nat) (read : List Value) (input : Input) :
    elementsWithin depth fuel read (skipSpace input) = elementsWithin depth fuel read input := by
  cases fuel with
  | zero => rfl
  | succ fuel => rw [elementsWithin, elementsWithin, valueWithin_skipSpace]

/-- The members of an object are read from the first character that is not white space. -/
theorem membersWithin_skipSpace (depth fuel : Nat) (read : List (String × Value)) (input : Input) :
    membersWithin depth fuel read (skipSpace input) = membersWithin depth fuel read input := by
  cases fuel with
  | zero => rfl
  | succ fuel => rw [membersWithin, membersWithin, skipSpace_skipSpace]

/-- A number is legible if it is read back from its text, to the last character. -/
def Number.Legible (number : Number) : Prop :=
  Json.value 0 (Input.ofText number.print) = .ok (.number number, [])

/-- The value nests at most so deep, its numbers are legible, and the members of its objects stand in the order of
their names. -/
inductive Value.Legible : Nat → Value → Prop where
  /-- The value `null`. -/
  | null (depth : Nat) : Legible depth .null
  /-- A truth value. -/
  | bool (depth : Nat) (on : Bool) : Legible depth (.bool on)
  /-- A number that is read back from its text. -/
  | number (depth : Nat) (number : Number) (legible : number.Legible) : Legible depth (.number number)
  /-- A text. -/
  | string (depth : Nat) (text : String) : Legible depth (.string text)
  /-- Legible values in an array. -/
  | array (depth : Nat) (elements : List Value) (each : ∀ element ∈ elements, Legible depth element) :
    Legible (depth + 1) (.array elements)
  /-- Legible values under names in order. -/
  | object (depth : Nat) (members : List (String × Value)) (sorted : EntriesSorted members)
      (each : ∀ member ∈ members, Legible depth member.2) : Legible (depth + 1) (.object members)

/-- The value is read back from its text where values may nest so deep. -/
def Value.ReadsBack (depth : Nat) (value : Value) : Prop :=
  ∀ {fuel : Nat} {rest : Input}, (Input.ofText value.print).length < fuel → Delimited rest →
    valueWithin depth fuel (Input.ofText value.print ++ rest) = .ok (value, rest)

/-- A minus sign begins a number. -/
theorem valueWithin_of_minus (front : skipSpace input = some '-' :: rest) :
    valueWithin depth (fuel + 1) input =
      (numberTail true rest).map fun read => (.number read.1, read.2) := by
  rw [valueWithin, front]
  show (numberTail true rest).bind (fun read => .ok (Value.number read.1, read.2)) = _
  cases numberTail true rest <;> rfl

/-- A quote begins a text. -/
theorem valueWithin_of_quote (front : skipSpace input = some '"' :: rest) :
    valueWithin depth (fuel + 1) input = (stringTail rest).map fun read => (.string read.1, read.2) := by
  rw [valueWithin, front]
  show (stringTail rest).bind (fun read => .ok (Value.string read.1, read.2)) = _
  cases stringTail rest <;> rfl

/-- A bracket begins an array. -/
theorem valueWithin_of_bracket (front : skipSpace input = some '[' :: rest) :
    valueWithin (depth + 1) (fuel + 1) input =
      match skipSpace rest with
      | some ']' :: rest => .ok (.array [], rest)
      | rest => elementsWithin depth fuel [] rest := by
  rw [valueWithin, front]
  rfl

/-- A brace begins an object. -/
theorem valueWithin_of_brace (front : skipSpace input = some '\x7b' :: rest) :
    valueWithin (depth + 1) (fuel + 1) input =
      match skipSpace rest with
      | some '\x7d' :: rest => .ok (.object [], rest)
      | rest => membersWithin depth fuel [] rest := by
  rw [valueWithin, front]
  rfl

/-- The end of an array is no element of it. -/
theorem elementsWithin_of_end {read : List Value} (front : skipSpace input = some ']' :: rest) :
    elementsWithin depth fuel read input = .error .malformed := by
  cases fuel with
  | zero => rfl
  | succ fuel =>
    rw [elementsWithin]
    cases fuel with
    | zero => rfl
    | succ fuel =>
      rw [valueWithin, front]
      rfl

/-- The end of an object is no member of it. -/
theorem membersWithin_of_end {read : List (String × Value)} (front : skipSpace input = some '\x7d' :: rest) :
    membersWithin depth fuel read input = .error .malformed := by
  cases fuel with
  | zero => rfl
  | succ fuel =>
    rw [membersWithin, front]
    rfl

/-- A digit begins a number. -/
theorem valueWithin_of_digit (front : skipSpace input = symbol :: rest) (digit : (digit? symbol).isSome = true) :
    valueWithin depth (fuel + 1) input =
      (numberTail false (symbol :: rest)).map fun read => (.number read.1, read.2) := by
  rw [valueWithin, front]
  split
  case h_8 => cases numberTail false (symbol :: rest) <;> rfl
  all_goals
    rename_i same
    obtain ⟨rfl, rfl⟩ := List.cons.inj same
    cases digit

/-- A number begins with a digit. -/
theorem digit_of_numberTail {number : Number} {left : Input}
    (read : numberTail false input = .ok (number, left)) :
    ∃ symbol rest, input = symbol :: rest ∧ (digit? symbol).isSome = true := by
  cases input with
  | nil => cases read
  | cons symbol rest =>
    refine ⟨symbol, rest, rfl, ?_⟩
    cases digit : digit? symbol with
    | some _ => rfl
    | none =>
      have nothing : spanDigits (symbol :: rest) = ([], symbol :: rest) := by rw [spanDigits, digit]
      unfold numberTail at read
      rw [numberText_eq, nothing] at read
      cases read

/-- Elements of an array come to an array. -/
theorem array_of_elementsWithin {read : List Value} {value : Value} {left : Input}
    (result : elementsWithin depth fuel read input = .ok (value, left)) : ∃ elements, value = .array elements := by
  induction fuel generalizing read input with
  | zero => cases result
  | succ fuel ih =>
    rw [elementsWithin] at result
    split at result
    · cases result
    split at result
    · exact ih result
    · obtain ⟨rfl, _⟩ := Prod.mk.inj (Except.ok.inj result)
      exact ⟨_, rfl⟩
    · cases result

/-- Members of an object come to an object. -/
theorem object_of_membersWithin {read : List (String × Value)} {value : Value} {left : Input}
    (result : membersWithin depth fuel read input = .ok (value, left)) : ∃ members, value = .object members := by
  induction fuel generalizing read input with
  | zero => cases result
  | succ fuel ih =>
    rw [membersWithin] at result
    split at result
    · split at result
      · cases result
      split at result
      · split at result
        · cases result
        split at result
        · exact ih result
        · obtain ⟨rfl, _⟩ := Prod.mk.inj (Except.ok.inj result)
          exact ⟨_, rfl⟩
        · cases result
      · cases result
    · cases result

/-- What two readers come to, one after the other, the second has come to after the first. -/
theorem exists_of_bind_eq_ok {α β : Type} {result : Except Problem α} {next : α → Except Problem β} {value : β}
    (same : result >>= next = .ok value) : ∃ middle, result = .ok middle ∧ next middle = .ok value := by
  cases result with
  | error problem => cases same
  | ok middle => exact ⟨middle, rfl, same⟩

/-- A number is read from behind its minus sign, or from its first digit. -/
theorem numberTail_of_valueWithin {number : Number} {left : Input}
    (read : valueWithin depth fuel input = .ok (.number number, left)) :
    (∃ rest, skipSpace input = some '-' :: rest ∧ numberTail true rest = .ok (number, left)) ∨
      numberTail false (skipSpace input) = .ok (number, left) := by
  cases fuel with
  | zero => cases read
  | succ fuel =>
    rw [valueWithin] at read
    split at read
    case h_5 minus =>
      obtain ⟨⟨number', left'⟩, came, same⟩ := exists_of_bind_eq_ok read
      cases same
      exact .inl ⟨_, minus, came⟩
    case h_6 =>
      split at read
      · cases read
      split at read
      · cases read
      · obtain ⟨elements, same⟩ := array_of_elementsWithin read
        cases same
    case h_7 =>
      split at read
      · cases read
      split at read
      · cases read
      · obtain ⟨members, same⟩ := object_of_membersWithin read
        cases same
    case h_8 =>
      obtain ⟨⟨number', left'⟩, came, same⟩ := exists_of_bind_eq_ok read
      cases same
      exact .inr came
    all_goals
      obtain ⟨middle, _, same⟩ := exists_of_bind_eq_ok read
      cases same

/-- A number that is read to the end of a text is read wherever a value can end. -/
theorem valueWithin_of_number {outer bound : Nat} {text : Input} {number : Number}
    (read : valueWithin outer bound text = .ok (.number number, [])) (delimited : Delimited rest) :
    valueWithin depth (fuel + 1) (text ++ rest) = .ok (.number number, rest) := by
  rcases numberTail_of_valueWithin read with ⟨digits, front, came⟩ | came
  · rw [valueWithin_of_minus (skipSpace_append front rest), numberTail_append delimited came]
    rfl
  · obtain ⟨symbol, digits, front, digit⟩ := digit_of_numberTail came
    rw [front] at came
    have extended := numberTail_append delimited came
    rw [valueWithin_of_digit (skipSpace_append front rest) digit, ← List.cons_append, extended]
    rfl

/-- A digit is no white space. -/
theorem isSpace_of_digit (digit : (digit? symbol).isSome = true) : isSpace symbol = false := by
  cases space : isSpace symbol with
  | false => rfl
  | true =>
    simp only [isSpace, Bool.or_eq_true, decide_eq_true_eq] at space
    rcases space with ((rfl | rfl) | rfl) | rfl <;> cases digit

/-- A number whose text begins with a digit is legible if it is read from there. -/
theorem legible_of_digit {number : Number} (text : Input.ofText number.print = rest)
    (came : numberTail false rest = .ok (number, [])) : number.Legible := by
  obtain ⟨symbol, digits, rfl, digit⟩ := digit_of_numberTail came
  unfold Number.Legible Json.value
  rw [text, valueWithin_of_digit (skipSpace_of_solid (isSpace_of_digit digit) digits) digit, came]
  rfl

/-- A number whose text begins with a minus sign is legible if it is read from behind it. -/
theorem legible_of_minus {number : Number} (text : Input.ofText number.print = some '-' :: rest)
    (came : numberTail true rest = .ok (number, [])) : number.Legible := by
  unfold Number.Legible Json.value
  rw [text, valueWithin_of_minus (skipSpace_of_solid rfl _), came]
  rfl

/-- The digits of a number as text. -/
theorem Input.ofText_natural (value : Nat) : Input.ofText (toString value) = (Nat.toDigits 10 value).map some := by
  rw [Nat.toString_eq_ofList_toDigits, Input.ofText, String.toList_ofList]

/-- Whole numbers are legible. -/
theorem legible_integer (value : Int) (fits : -9223372036854775808 ≤ value ∧ value < 18446744073709551616) :
    (Number.integer value fits).Legible := by
  cases value with
  | ofNat value =>
    exact legible_of_digit (Input.ofText_natural value)
      (numberTail_toDigits false value rfl (fun negative => by cases negative) fits)
  | negSucc value =>
    have text : Input.ofText (toString (Int.negSucc value)) =
        some '-' :: (Nat.toDigits 10 (value + 1)).map some := by
      show Input.ofText ("-" ++ toString (value + 1)) = _
      rw [Input.ofText_append, Input.ofText_natural]
      rfl
    exact legible_of_minus text
      (numberTail_toDigits true (value + 1) (Int.negSucc_eq value) (fun _ => Nat.succ_ne_zero value) fits)

/-- One half is a legible double. -/
theorem legible_half : (Number.float 0.5).Legible := by
  have text : (Number.float 0.5).print = "0.5" := by decide +kernel
  have value : NumberText.toFloat? ⟨false, [0], some [5], none⟩ = some 0.5 := by decide +kernel
  have number : NumberText.toNumber? ⟨false, [0], some [5], none⟩ = some (.float 0.5) := by
    unfold NumberText.toNumber?
    rw [if_neg (by decide), value]
    rfl
  have came : numberTail false [some '0', some '.', some '5'] = .ok (.float 0.5, []) :=
    numberTail_of_numberText rfl number
  refine legible_of_digit ?_ came
  rw [text]
  rfl

/-- The text of a string, quotes and all. -/
theorem Input.ofText_printString (text : String) :
    Input.ofText (printString text) = some '"' :: ((text.toList.flatMap stringChar).map some ++ [some '"']) := by
  rw [printString, Input.ofText, String.toList_ofList]
  simp

/-- A text is read back from its string. -/
theorem stringTail_printString (text : String) (rest : Input) :
    stringTail ((text.toList.flatMap stringChar).map some ++ some '"' :: rest) = .ok (text, rest) := by
  rw [stringTail, stringRest_printed, List.reverse_nil, List.nil_append, String.ofList_toList]

/-- A comma, or the end of an array or of an object, can follow a value. -/
theorem delimited_cons (ends : symbol = some ',' ∨ symbol = some ']' ∨ symbol = some '\x7d') (rest : Input) :
    Delimited (symbol :: rest) := by
  intro first same
  obtain rfl := Option.some.inj same
  exact ends

/-- The text of an array. -/
theorem Input.ofText_array (elements : List Value) :
    Input.ofText (Value.array elements).print =
      some '[' :: (Input.ofText (printElements elements) ++ [some ']']) := by
  rw [Value.print, Input.ofText_append, Input.ofText_append]
  rfl

/-- The text of elements. -/
theorem Input.ofText_elements (element next : Value) (elements : List Value) :
    Input.ofText (printElements (element :: next :: elements)) =
      Input.ofText element.print ++ some ',' :: Input.ofText (printElements (next :: elements)) := by
  rw [printElements, Input.ofText_append, Input.ofText_append, List.append_assoc]
  rfl

/-- An element of an array is read, and then what follows it decides. -/
theorem elementsWithin_element {element : Value} (first : element.ReadsBack depth) (read : List Value)
    (enough : (Input.ofText element.print).length < fuel) (delimited : Delimited rest) :
    elementsWithin depth (fuel + 1) read (Input.ofText element.print ++ rest) =
      match skipSpace rest with
      | some ',' :: rest => elementsWithin depth fuel (element :: read) rest
      | some ']' :: rest => .ok (.array (element :: read).reverse, rest)
      | _ => .error .malformed := by
  rewrite [elementsWithin, first enough delimited]
  rfl

/-- The elements of an array are read back from their texts. -/
theorem elementsWithin_print {elements : List Value} {element : Value}
    (each : ∀ element' ∈ element :: elements, element'.ReadsBack depth) (read : List Value)
    (enough : (Input.ofText (printElements (element :: elements))).length + 1 < fuel) (rest : Input) :
    elementsWithin depth fuel read (Input.ofText (printElements (element :: elements)) ++ some ']' :: rest) =
      .ok (.array (read.reverse ++ element :: elements), rest) := by
  induction elements generalizing element read fuel with
  | nil =>
    obtain ⟨first, _⟩ := List.forall_mem_cons.mp each
    rw [printElements] at enough ⊢
    cases fuel with
    | zero => omega
    | succ fuel =>
      rw [elementsWithin_element first read (by omega) (delimited_cons (.inr (.inl rfl)) rest),
        skipSpace_of_solid rfl, List.reverse_cons]
      rfl
  | cons next elements ih =>
    obtain ⟨first, later⟩ := List.forall_mem_cons.mp each
    rw [Input.ofText_elements] at enough ⊢
    rw [List.length_append, List.length_cons] at enough
    cases fuel with
    | zero => omega
    | succ fuel =>
      have more := @ih fuel next later (element :: read) (by omega)
      rw [List.reverse_cons, List.append_assoc] at more
      rw [List.append_assoc, List.cons_append,
        elementsWithin_element first read (by omega) (delimited_cons (.inl rfl) _), skipSpace_of_solid rfl]
      exact more

/-- The text of a member. -/
theorem Input.ofText_member (name text : String) :
    Input.ofText (printString name ++ ":" ++ text) =
      some '"' :: ((name.toList.flatMap stringChar).map some ++ some '"' :: some ':' :: Input.ofText text) := by
  rw [Input.ofText_append, Input.ofText_append, Input.ofText_printString, List.cons_append, List.cons_append,
    List.append_assoc, List.append_assoc]
  rfl

/-- The text of an object. -/
theorem Input.ofText_object (members : List (String × Value)) :
    Input.ofText (Value.object members).print =
      some '\x7b' :: (Input.ofText (printMembers members) ++ [some '\x7d']) := by
  rw [Value.print, Input.ofText_append, Input.ofText_append]
  rfl

/-- The text of members. -/
theorem Input.ofText_members (name : String) (value : Value) (next : String × Value)
    (members : List (String × Value)) :
    Input.ofText (printMembers ((name, value) :: next :: members)) =
      Input.ofText (printString name ++ ":" ++ value.print) ++
        some ',' :: Input.ofText (printMembers (next :: members)) := by
  rw [printMembers, Input.ofText_append, Input.ofText_append, List.append_assoc]
  rfl

/-- The text of a member is longer than that of its value. -/
theorem length_lt_member (name text : String) :
    (Input.ofText text).length < (Input.ofText (printString name ++ ":" ++ text)).length := by
  rw [Input.ofText_member]
  simp only [List.length_cons, List.length_append]
  omega

/-- A member of an object is read, and then what follows it decides. -/
theorem membersWithin_member {name : String} {value : Value} (first : value.ReadsBack depth)
    (read : List (String × Value)) (enough : (Input.ofText value.print).length < fuel) (delimited : Delimited rest) :
    membersWithin depth (fuel + 1) read (Input.ofText (printString name ++ ":" ++ value.print) ++ rest) =
      match skipSpace rest with
      | some ',' :: rest => membersWithin depth fuel (insertEntry name value read) rest
      | some '\x7d' :: rest => .ok (.object (insertEntry name value read), rest)
      | _ => .error .malformed := by
  rw [Input.ofText_member, List.cons_append, List.append_assoc, List.cons_append, List.cons_append, membersWithin]
  split
  · rename_i quoted same
    rw [skipSpace_of_solid rfl] at same
    obtain ⟨_, rfl⟩ := List.cons.inj same
    rw [stringTail_printString]
    dsimp only
    split
    · rename_i after same
      rw [skipSpace_of_solid rfl] at same
      obtain ⟨_, rfl⟩ := List.cons.inj same
      rewrite [first enough delimited]
      rfl
    · rename_i other
      exact absurd (skipSpace_of_solid rfl _) (other _)
  · rename_i other
    exact absurd (skipSpace_of_solid rfl _) (other _)

/-- The members of an object are read back from their texts, into the members before them. -/
theorem membersWithin_print {members : List (String × Value)} {member : String × Value}
    (each : ∀ member' ∈ member :: members, member'.2.ReadsBack depth) (read : List (String × Value))
    (enough : (Input.ofText (printMembers (member :: members))).length + 1 < fuel) (rest : Input) :
    membersWithin depth fuel read (Input.ofText (printMembers (member :: members)) ++ some '\x7d' :: rest) =
      .ok (.object ((member :: members).foldl (fun sorted member => insertEntry member.1 member.2 sorted) read),
        rest) := by
  induction members generalizing member read fuel with
  | nil =>
    obtain ⟨name, value⟩ := member
    have first : value.ReadsBack depth := each (name, value) List.mem_cons_self
    have longer := length_lt_member name value.print
    rw [printMembers] at enough ⊢
    cases fuel with
    | zero => omega
    | succ fuel =>
      rw [membersWithin_member first read (by omega) (delimited_cons (.inr (.inr rfl)) rest), skipSpace_of_solid rfl]
      rfl
  | cons next members ih =>
    obtain ⟨name, value⟩ := member
    have first : value.ReadsBack depth := each (name, value) List.mem_cons_self
    have longer := length_lt_member name value.print
    rw [Input.ofText_members] at enough ⊢
    rw [List.length_append, List.length_cons] at enough
    cases fuel with
    | zero => omega
    | succ fuel =>
      have more := @ih fuel next (fun member' member => each member' (List.mem_cons_of_mem _ member))
        (insertEntry name value read) (by omega)
      rw [List.append_assoc, List.cons_append,
        membersWithin_member first read (by omega) (delimited_cons (.inl rfl) _), skipSpace_of_solid rfl]
      exact more

/-- A value is read back if it is read back where something may be read at all. -/
theorem readsBack_of_succ {value : Value}
    (each : ∀ fuel rest, (Input.ofText value.print).length ≤ fuel → Delimited rest →
      valueWithin depth (fuel + 1) (Input.ofText value.print ++ rest) = .ok (value, rest)) :
    value.ReadsBack depth := by
  intro fuel rest enough delimited
  cases fuel with
  | zero => exact absurd enough (Nat.not_lt_zero _)
  | succ fuel => exact each fuel rest (Nat.le_of_lt_succ enough) delimited

/-- A text is read back. -/
theorem readsBack_string (depth : Nat) (text : String) : (Value.string text).ReadsBack depth := by
  refine readsBack_of_succ fun fuel rest _ _ => ?_
  rw [Value.print, Input.ofText_printString, List.cons_append, List.append_assoc,
    valueWithin_of_quote (skipSpace_of_solid rfl _), List.cons_append, stringTail_printString]
  rfl

/-- An array is read back if its elements are. -/
theorem readsBack_array {elements : List Value} (each : ∀ element ∈ elements, element.ReadsBack depth) :
    (Value.array elements).ReadsBack (depth + 1) := by
  refine readsBack_of_succ fun fuel rest enough _ => ?_
  rw [Input.ofText_array] at enough ⊢
  rw [List.length_cons, List.length_append, List.length_singleton] at enough
  rw [List.cons_append, List.append_assoc, List.singleton_append, valueWithin_of_bracket (skipSpace_of_solid rfl _)]
  cases elements with
  | nil => rfl
  | cons element elements =>
    have came := @elementsWithin_print depth fuel elements element each [] (by omega) rest
    rw [← elementsWithin_skipSpace] at came
    split
    · rename_i front
      rw [elementsWithin_skipSpace, elementsWithin_of_end front] at came
      cases came
    · exact came

/-- An object with its members in order is read back if its values are. -/
theorem readsBack_object {members : List (String × Value)} (sorted : EntriesSorted members)
    (each : ∀ member ∈ members, member.2.ReadsBack depth) : (Value.object members).ReadsBack (depth + 1) := by
  refine readsBack_of_succ fun fuel rest enough _ => ?_
  rw [Input.ofText_object] at enough ⊢
  rw [List.length_cons, List.length_append, List.length_singleton] at enough
  rw [List.cons_append, List.append_assoc, List.singleton_append, valueWithin_of_brace (skipSpace_of_solid rfl _)]
  cases members with
  | nil => rfl
  | cons member members =>
    have came := @membersWithin_print depth fuel members member each [] (by omega) rest
    rw [← membersWithin_skipSpace, Table.foldl_insertEntry_of_sorted sorted] at came
    split
    · rename_i front
      rw [membersWithin_skipSpace, membersWithin_of_end front] at came
      cases came
    · exact came

/-- A legible value is read back from its text. -/
theorem readsBack_of_legible {value : Value} (legible : value.Legible depth) : value.ReadsBack depth := by
  induction legible with
  | null depth => exact readsBack_of_succ fun _ _ _ _ => rfl
  | bool depth on => exact readsBack_of_succ fun _ _ _ _ => by cases on <;> rfl
  | number depth number legible =>
    exact readsBack_of_succ fun _ _ _ delimited => valueWithin_of_number legible delimited
  | string depth text => exact readsBack_string depth text
  | array depth elements each ih => exact readsBack_array ih
  | object depth members sorted each ih => exact readsBack_object sorted ih

end LiveFlags.Json
