import LiveFlags.Proofs.Json.Written

/-!
# Reading typed values back

A reader takes a text for a result (`Reader.Takes`) if it reads it as that result wherever a value can end.
Maps and records are taken if what is in them is, member by member. What a record is called does not
matter for what is read of it (`Record.toOption_reader`).
-/
namespace LiveFlags.Json

variable {α σ : Type} {rest : Input}

/-- After a result the next reader reads on from it. -/
theorem ok_bind {β : Type} (value : α) (next : α → Except Problem β) :
    (Except.ok value >>= next) = next value := rfl

/-- What is read by one reader after the other, if anything, is what the second reads after the first. -/
theorem toOption_bind {β : Type} (result : Except Problem α) (next : α → Except Problem β) :
    (result >>= next).toOption = result.toOption.bind fun value => (next value).toOption := by
  cases result <;> rfl

/-- What is read, if anything, is the result. -/
theorem toOption_eq_some {result : Except Problem α} {value : α} :
    result.toOption = some value ↔ result = .ok value := by
  cases result with
  | error problem => exact iff_of_false nofun nofun
  | ok read => exact ⟨fun same => congrArg _ (Option.some.inj same), fun same => congrArg _ (Except.ok.inj same)⟩

/-- Where something else stands than was expected, nothing is read. -/
theorem toOption_wrongType (expected : String) (input : Input) :
    (wrongType expected input : Except Problem (α × Input)).toOption = none := by
  have refused : ∀ found : Except Problem Found, (found.bind fun found =>
      (.error (.wrongType found expected) : Except Problem (α × Input))).toOption = none := by
    intro found
    cases found <;> rfl
  unfold wrongType
  exact refused _

/-- The reader takes the text for the result, wherever a value can end. -/
def Reader.Takes (reader : Reader α) (text : String) (result : α) : Prop :=
  ∀ rest, Delimited rest → reader (Input.ofText text ++ rest) = .ok (result, rest)

/-- A text that is taken is read as a whole. -/
theorem Reader.Takes.run {reader : Reader α} {text : String} {result : α} (takes : reader.Takes text result) :
    reader.run (Input.ofText text) = .ok result := by
  have came := takes [] (fun _ first => by cases first)
  rw [List.append_nil] at came
  unfold Reader.run
  rw [came]
  rfl

/-- What is done with a result does not matter for what is read. -/
theorem Reader.Takes.map {β : Type} {reader : Reader α} {text : String} {result : α}
    (takes : reader.Takes text result) (next : α → β) :
    Reader.Takes (do return next (← reader)) text (next result) := by
  intro rest delimited
  show (reader (Input.ofText text ++ rest)).bind _ = _
  rw [takes rest delimited]
  rfl

/-- Legible values are taken for themselves. -/
theorem takes_value {outer : Nat} {value : Value} (legible : value.Legible (maxDepth - outer)) :
    Reader.Takes (Json.value outer) value.print value := by
  intro rest delimited
  refine readsBack_of_legible legible ?_ delimited
  rw [List.length_append]
  omega

/-- Texts are taken for themselves. -/
theorem takes_string (text : String) : Reader.Takes string (printString text) text := by
  intro rest delimited
  rw [Input.ofText_printString, List.cons_append, List.append_assoc, List.singleton_append, string,
    skipSpace_of_solid rfl]
  exact stringTail_printString text rest

/-- A text that is taken for a result is taken for it where `null` may stand too, unless it begins like `null`. -/
theorem takes_optional {reader : Reader α} {text : String} {result : α} {symbol : Option Char} {left : Input}
    (takes : reader.Takes text result) (solid : ∀ input, reader (skipSpace input) = reader input)
    (front : skipSpace (Input.ofText text) = symbol :: left) (other : symbol ≠ some 'n') :
    Reader.Takes (optional reader) text (some result) := by
  intro rest delimited
  have came := takes rest delimited
  rw [← solid, skipSpace_append front] at came
  unfold optional
  rw [skipSpace_append front]
  split
  · rename_i same
    exact absurd (List.cons.inj same).1 other
  · rw [came]
    rfl

/-- Where `null` may stand it is taken for none. -/
theorem takes_null (reader : Reader α) : Reader.Takes (optional reader) Value.null.print none := by
  intro rest _
  rfl

/-- Texts are taken for themselves where `null` may stand too. -/
theorem takes_optional_string (text : String) :
    Reader.Takes (optional string) (printString text) (some text) := by
  have front := Input.ofText_printString text
  have solid : ∀ input, string (skipSpace input) = string input := by
    intro input
    rw [string, string, skipSpace_skipSpace]
  exact takes_optional (takes_string text) solid (by rw [front, skipSpace_of_solid rfl]) (by decide)

/-- Legible numbers are taken for themselves. -/
theorem takes_number {number : Number} (legible : number.Legible) (expected : String) :
    Reader.Takes (anyNumber expected) number.print number := by
  intro rest delimited
  rcases numberTail_of_valueWithin legible with ⟨digits, front, came⟩ | came
  · unfold anyNumber
    rw [skipSpace_append front]
    exact numberTail_append delimited came
  · obtain ⟨symbol, digits, front, digit⟩ := digit_of_numberTail came
    rw [front] at came
    unfold anyNumber
    rw [skipSpace_append front]
    split
    · rename_i same
      rw [(List.cons.inj same).1] at digit
      contradiction
    · rw [List.head?_cons]
      dsimp only
      rw [if_pos digit]
      exact numberTail_append delimited came

/-- The text of a legible number does not begin like `null`. -/
theorem Number.Legible.front {number : Number} (legible : number.Legible) :
    ∃ symbol left, skipSpace (Input.ofText number.print) = symbol :: left ∧ symbol ≠ some 'n' := by
  rcases numberTail_of_valueWithin legible with ⟨digits, front, _⟩ | came
  · exact ⟨_, digits, front, by decide⟩
  · obtain ⟨symbol, digits, front, digit⟩ := digit_of_numberTail came
    refine ⟨symbol, digits, front, ?_⟩
    rintro rfl
    contradiction

/-- A number is read from its first character that is not white space. -/
theorem anyNumber_skipSpace (expected : String) (input : Input) :
    anyNumber expected (skipSpace input) = anyNumber expected input := by
  rw [anyNumber, anyNumber, skipSpace_skipSpace]

/-- Unsigned whole numbers of 64 bits are taken for themselves where `null` may stand too. -/
theorem takes_optional_natural (value : UInt64) :
    Reader.Takes (optional natural) (Value.natural value).print (some value) := by
  have legible : (Number.ofNatural value).Legible := legible_integer _ _
  have takes : Reader.Takes natural (Value.natural value).print value := by
    intro rest delimited
    have came := takes_number legible "u64" rest delimited
    show (anyNumber "u64" (Input.ofText (Number.ofNatural value).print ++ rest)).bind _ = _
    rw [came, Number.ofNatural, Except.bind]
    dsimp only
    rw [if_pos (Int.natCast_nonneg _), Int.toNat_natCast, UInt64.ofNat_toNat]
    rfl
  have solid : ∀ input, natural (skipSpace input) = natural input := by
    intro input
    show (anyNumber "u64" (skipSpace input)).bind _ = (anyNumber "u64" input).bind _
    rw [anyNumber_skipSpace]
  obtain ⟨symbol, left, front, other⟩ := legible.front
  exact takes_optional takes solid front other

/-- Legible doubles are taken for themselves where `null` may stand too. -/
theorem takes_optional_float {value : Float} (legible : (Number.float value).Legible) :
    Reader.Takes (optional float) (Number.float value).print (some value) := by
  have takes : Reader.Takes float (Number.float value).print value :=
    Reader.Takes.map (takes_number legible "f64") Number.toFloat
  have solid : ∀ input, float (skipSpace input) = float input := by
    intro input
    show (anyNumber "f64" (skipSpace input)).bind _ = (anyNumber "f64" input).bind _
    rw [anyNumber_skipSpace]
  obtain ⟨symbol, left, front, other⟩ := legible.front
  exact takes_optional takes solid front other

/-- A member of a map is read, and then what follows it decides. -/
theorem tableMembers_member {reader : Reader α} {fuel : Nat} {name text : String} {result : α}
    (takes : reader.Takes text result) (read : Table α) (delimited : Delimited rest) :
    tableMembers reader (fuel + 1) read (Input.ofText (printString name ++ ":" ++ text) ++ rest) =
      match skipSpace rest with
      | some ',' :: rest => tableMembers reader fuel (read.insert name result) rest
      | some '\x7d' :: rest => .ok (read.insert name result, rest)
      | _ => .error .malformed := by
  rw [Input.ofText_member, List.cons_append, List.append_assoc, List.cons_append, List.cons_append, tableMembers]
  split
  · rename_i quoted same
    rw [skipSpace_of_solid rfl] at same
    obtain ⟨_, rfl⟩ := List.cons.inj same
    have colon : colon (some ':' :: (Input.ofText text ++ rest)) = .ok ((), Input.ofText text ++ rest) := rfl
    rw [stringTail_printString, ok_bind]
    dsimp only
    rw [colon, ok_bind]
    dsimp only
    rewrite [takes rest delimited]
    rfl
  · rename_i other
    exact absurd (skipSpace_of_solid rfl _) (other _)

/-- The members of a map are read, with the values that their texts are taken for. -/
theorem tableMembers_print {reader : Reader α} {result : Value → α} {members : List (String × Value)}
    {member : String × Value} {fuel : Nat}
    (each : ∀ member' ∈ member :: members, reader.Takes member'.2.print (result member'.2)) (read : Table α)
    (enough : members.length < fuel) (rest : Input) :
    tableMembers reader fuel read (Input.ofText (printMembers (member :: members)) ++ some '\x7d' :: rest) =
      .ok (((member :: members).map fun member => (member.1, result member.2)).foldl
        (fun table entry => table.insert entry.1 entry.2) read, rest) := by
  induction members generalizing member read fuel with
  | nil =>
    obtain ⟨name, value⟩ := member
    have takes : reader.Takes value.print (result value) := each (name, value) List.mem_cons_self
    cases fuel with
    | zero => simp at enough
    | succ fuel =>
      rw [printMembers, tableMembers_member takes read (delimited_cons (.inr (.inr rfl)) rest),
        skipSpace_of_solid rfl]
      rfl
  | cons next members ih =>
    obtain ⟨name, value⟩ := member
    have takes : reader.Takes value.print (result value) := each (name, value) List.mem_cons_self
    cases fuel with
    | zero => simp at enough
    | succ fuel =>
      have more := @ih next fuel (fun member' member => each member' (List.mem_cons_of_mem _ member))
        (read.insert name (result value)) (Nat.lt_of_succ_lt_succ enough)
      rw [Input.ofText_members, List.append_assoc, List.cons_append,
        tableMembers_member takes read (delimited_cons (.inl rfl) _), skipSpace_of_solid rfl]
      exact more

/-- The text of members begins with the quote of the first name. -/
theorem exists_quote_printMembers (member : String × Value) (members : List (String × Value)) :
    ∃ quoted, Input.ofText (printMembers (member :: members)) = some '"' :: quoted := by
  obtain ⟨name, value⟩ := member
  cases members with
  | nil => exact ⟨_, by rw [printMembers, Input.ofText_member]⟩
  | cons next members => exact ⟨_, by rw [Input.ofText_members, Input.ofText_member, List.cons_append]⟩

/-- The text of members has at least a character for each. -/
theorem length_le_printMembers (members : List (String × Value)) :
    members.length ≤ (Input.ofText (printMembers members)).length := by
  induction members with
  | nil => exact Nat.zero_le _
  | cons member members ih =>
    cases members with
    | nil =>
      obtain ⟨quoted, text⟩ := exists_quote_printMembers member []
      rw [text]
      exact Nat.succ_le_succ (Nat.zero_le _)
    | cons next members =>
      obtain ⟨name, value⟩ := member
      rw [Input.ofText_members, List.length_append]
      simp only [List.length_cons] at ih ⊢
      omega

/-- A brace begins a map. -/
theorem table_of_brace {reader : Reader α} {input : Input} (front : skipSpace input = some '\x7b' :: rest) :
    table reader input =
      match skipSpace rest with
      | some '\x7d' :: rest => .ok (.empty, rest)
      | rest => tableMembers reader (rest.length + 1) .empty rest := by
  rw [table, front]
  rfl

/-- An object is taken for the map of what its members are taken for. -/
theorem takes_table {reader : Reader α} {result : Value → α} {members : List (String × Value)}
    (each : ∀ member ∈ members, reader.Takes member.2.print (result member.2)) :
    Reader.Takes (table reader) (Value.object members).print
      (Table.ofList (members.map fun member => (member.1, result member.2))) := by
  intro rest delimited
  rw [Input.ofText_object, List.cons_append, List.append_assoc, List.singleton_append,
    table_of_brace (skipSpace_of_solid rfl _)]
  cases members with
  | nil => rfl
  | cons member members =>
    obtain ⟨quoted, text⟩ := exists_quote_printMembers member members
    have front : skipSpace (Input.ofText (printMembers (member :: members)) ++ some '\x7d' :: rest) =
        Input.ofText (printMembers (member :: members)) ++ some '\x7d' :: rest := by
      rw [text, List.cons_append, skipSpace_of_solid rfl]
    have many := length_le_printMembers (member :: members)
    rw [front]
    split
    · rename_i same
      rw [text, List.cons_append] at same
      cases (List.cons.inj same).1
    · refine tableMembers_print each .empty ?_ rest
      rw [List.length_append]
      rw [List.length_cons] at many
      omega

namespace Record

variable {record other : Record σ} {fuel : Nat} {input : Input}

/-- A member of a record that names a field not yet read is read as that field, and then what follows it decides. -/
theorem members_member {name text : String} {state state' : σ} {field : Field σ}
    (named : record.fields.find? (·.name = name) = some field) (absent : field.present state = false)
    (takes : Reader.Takes (field.read state) text state') (delimited : Delimited rest) :
    record.members (fuel + 1) state (Input.ofText (printString name ++ ":" ++ text) ++ rest) =
      match skipSpace rest with
      | some ',' :: rest => record.members fuel state' rest
      | some '\x7d' :: rest => .ok (state', rest)
      | _ => .error .malformed := by
  have colon : colon (some ':' :: (Input.ofText text ++ rest)) = .ok ((), Input.ofText text ++ rest) := rfl
  have came : record.member state name (some ':' :: (Input.ofText text ++ rest)) = .ok (state', rest) := by
    unfold member
    rw [named]
    dsimp only
    rw [if_neg (by rw [absent]; decide)]
    show (Json.colon (some ':' :: (Input.ofText text ++ rest)) >>= fun read => field.read state read.2) = _
    rw [colon, ok_bind]
    exact takes rest delimited
  rw [Input.ofText_member, List.cons_append, List.append_assoc, List.cons_append, List.cons_append, members]
  split
  · rename_i quoted same
    rw [skipSpace_of_solid rfl] at same
    obtain ⟨_, rfl⟩ := List.cons.inj same
    rw [stringTail_printString, ok_bind]
    dsimp only
    rewrite [came]
    rfl
  · rename_i quoteless
    exact absurd (skipSpace_of_solid rfl _) (quoteless _)

/-- A brace and a quote begin a record with names. -/
theorem reader_of_quote {quoted : Input} (front : skipSpace input = some '\x7b' :: rest)
    (name : skipSpace rest = some '"' :: quoted) :
    record.reader input =
      record.members (quoted.length + 2) record.initial (some '"' :: quoted) >>= fun read =>
        match record.missing? read.1 with
        | some name => .error (.missingField name)
        | none => .ok read := by
  rw [reader, front]
  split
  · rename_i same
    obtain ⟨_, rfl⟩ := List.cons.inj same
    dsimp only
    rw [name]
    rfl
  · rename_i same
    cases (List.cons.inj same).1
  · rename_i braceless _
    exact absurd rfl (braceless _)

/-- An object is taken for the record that its members are taken for, if no field is missing then. -/
theorem takes_reader {member : String × Value} {members : List (String × Value)} {state : σ}
    (each : ∀ fuel rest, members.length < fuel →
      record.members fuel record.initial (Input.ofText (printMembers (member :: members)) ++ some '\x7d' :: rest) =
        .ok (state, rest))
    (complete : record.missing? state = none) :
    Reader.Takes record.reader (Value.object (member :: members)).print state := by
  intro rest delimited
  obtain ⟨quoted, text⟩ := exists_quote_printMembers member members
  have front : skipSpace (Input.ofText (printMembers (member :: members)) ++ some '\x7d' :: rest) =
      some '"' :: (quoted ++ some '\x7d' :: rest) := by
    rw [text, List.cons_append, skipSpace_of_solid rfl]
  have many := length_le_printMembers (member :: members)
  have enough : members.length < (quoted ++ some '\x7d' :: rest).length + 2 := by
    rw [text, List.length_cons, List.length_cons] at many
    rw [List.length_append]
    omega
  have came := each _ rest enough
  rw [text, List.cons_append] at came
  rw [Input.ofText_object, List.cons_append, List.append_assoc, List.singleton_append,
    reader_of_quote (skipSpace_of_solid rfl _) front, came, ok_bind, complete]

/-- What is read of the members of a record does not depend on what the record is called. -/
theorem members_congr (fields : record.fields = other.fields) (fuel : Nat) (state : σ) (input : Input) :
    record.members fuel state input = other.members fuel state input := by
  have member : record.member = other.member := by
    unfold Record.member
    rw [fields]
  induction fuel generalizing state input with
  | zero => rfl
  | succ fuel ih =>
    rw [members, members, member]
    simp only [ih]

/-- What is read of a record as an array, if anything, does not depend on what the record is called. -/
theorem toOption_elements (index : Nat) (state : σ) (fields : List (Field σ)) (input : Input) :
    (record.elements index state fields input).toOption = (other.elements index state fields input).toOption := by
  induction fields generalizing index state input with
  | nil => rfl
  | cons field fields ih =>
    rw [elements, elements]
    split
    · split
      · exact ih _ _ _
      · rfl
    · have read : ∀ rest, (field.read state rest >>= fun read =>
          record.elements (index + 1) read.1 fields read.2).toOption = (field.read state rest >>= fun read =>
            other.elements (index + 1) read.1 fields read.2).toOption := by
        intro rest
        rw [toOption_bind, toOption_bind]
        exact congrArg _ (funext fun read => ih _ _ _)
      split
      · exact read _
      · split
        · split
          · rfl
          · exact read _
        · rfl

/-- What is read of a record, if anything, does not depend on what the record is called. -/
theorem toOption_reader (fields : record.fields = other.fields) (initial : record.initial = other.initial)
    (input : Input) : (record.reader input).toOption = (other.reader input).toOption := by
  have missing : record.missing? = other.missing? := by
    unfold missing?
    rw [fields]
  have members : record.members = other.members := by
    funext fuel state input
    exact members_congr fields fuel state input
  unfold reader
  split
  · rw [initial, members, missing]
  · rw [fields, initial]
    exact toOption_elements _ _ _ _
  · rw [toOption_wrongType, toOption_wrongType]

end Record

end LiveFlags.Json
