import LiveFlags.Json.Reader

/-!
# Reading typed values

Readers of single types, of maps and of records. A record is written as an object, whose unknown
members are passed over, or as the array of its fields in order. Reading goes from left to right and
stops at the first problem, so a value of the wrong type hides a fault of the grammar behind it.
-/
namespace LiveFlags.Json

/-- Stops at a problem. -/
def fail {α : Type} (problem : Problem) : Reader α := fun _ => .error problem

/-- Names what stands at the front where something else was expected. Scalars are read to the end,
so their own faults come first. -/
def wrongType {α : Type} (expected : String) : Reader α := fun input =>
  let found : Except Problem Found :=
    match skipSpace input with
    | some 'n' :: rest => (word ['u', 'l', 'l'] rest).map fun _ => .null
    | some 't' :: rest => (word ['r', 'u', 'e'] rest).map fun _ => .bool true
    | some 'f' :: rest => (word ['a', 'l', 's', 'e'] rest).map fun _ => .bool false
    | some '"' :: rest => (stringTail rest).map fun read => .string read.1
    | some '[' :: _ => .ok .sequence
    | some '\x7b' :: _ => .ok .map
    | rest =>
      let number := match rest with
        | some '-' :: rest => numberTail true rest
        | rest => numberTail false rest
      number.map fun read => match read.1 with
        | .integer value _ => .integer value
        | .float value => .float value
  found.bind fun found => .error (.wrongType found expected)

/-- Reads a text. -/
def string : Reader String := fun input =>
  match skipSpace input with
  | some '"' :: rest => stringTail rest
  | rest => wrongType "a string" rest

/-- Reads a number, whatever its form. -/
def anyNumber (expected : String) : Reader Number := fun input =>
  match skipSpace input with
  | some '-' :: rest => numberTail true rest
  | rest =>
    match rest.head? with
    | some symbol => if (digit? symbol).isSome then numberTail false rest else wrongType expected rest
    | none => .error .malformed

/-- Reads an unsigned whole number of 64 bits. -/
def natural : Reader UInt64 := do
  match ← anyNumber "u64" with
  | .integer value _ =>
    if 0 ≤ value then return UInt64.ofNat value.toNat
    else fail (.wrongValue (.integer value) "u64")
  | .float value => fail (.wrongType (.float value) "u64")

/-- Reads a number as a double. -/
def float : Reader Float := do
  return (← anyNumber "f64").toFloat

/-- Reads a value, or `null` as none. -/
def optional {α : Type} (reader : Reader α) : Reader (Option α) := fun input =>
  match skipSpace input with
  | some 'n' :: rest => do .ok (none, ← word ['u', 'l', 'l'] rest)
  | rest => do let (read, rest) ← reader rest; .ok (some read, rest)

/-- Takes the colon between a name and its value. -/
def colon : Reader Unit := fun input =>
  match skipSpace input with
  | some ':' :: rest => .ok ((), rest)
  | _ => .error .malformed

/-- Reads a member of a map and those after it into the entries read so far. -/
def tableMembers {α : Type} (reader : Reader α) (fuel : Nat) (read : Table α) (input : Input) :
    Except Problem (Table α × Input) :=
  match fuel with
  | 0 => .error .malformed
  | fuel + 1 =>
    match skipSpace input with
    | some '"' :: rest => do
      let (name, rest) ← stringTail rest
      let ((), rest) ← colon rest
      let (value, rest) ← reader rest
      match skipSpace rest with
      | some ',' :: rest => tableMembers reader fuel (read.insert name value) rest
      | some '\x7d' :: rest => .ok (read.insert name value, rest)
      | _ => .error .malformed
    | _ => .error .malformed

/-- Reads an object as a map; of several members with one name the last counts. -/
def table {α : Type} (reader : Reader α) : Reader (Table α) := fun input =>
  match skipSpace input with
  | some '\x7b' :: rest =>
    match skipSpace rest with
    | some '\x7d' :: rest => .ok (.empty, rest)
    | rest => tableMembers reader (rest.length + 1) .empty rest
  | rest => wrongType "a map" rest

/-- One field of a record, and how it is read into the fields read so far. -/
structure Field (σ : Type) where
  /-- The name of the field. -/
  name : String
  /-- Whether the field has been read. -/
  present : σ → Bool
  /-- Reads the value of the field. -/
  read : σ → Reader σ
  /-- Whether an object has to have the field. -/
  required : Bool
  /-- Whether an array may end before the field. -/
  omissible : Bool

/-- A record: its name, its fields in order and the state before any of them is read. -/
structure Record (σ : Type) where
  /-- What the record is called where something else stands in its place. -/
  title : String
  /-- The fields in the order of the array form. -/
  fields : List (Field σ)
  /-- The state before any field has been read. -/
  initial : σ

namespace Record

variable {σ : Type}

/-- The first required field that has not been read. -/
def missing? (record : Record σ) (state : σ) : Option String :=
  (record.fields.find? fun field => field.required && !field.present state).map (·.name)

/-- Reads the value of the member with this name. -/
def member (record : Record σ) (state : σ) (name : String) : Reader σ := do
  match record.fields.find? (·.name = name) with
  | none => colon; skip; return state
  | some field =>
    if field.present state then fail (.duplicateField name)
    else colon; field.read state

/-- Reads a member of the object form and those after it. -/
def members (record : Record σ) (fuel : Nat) (state : σ) (input : Input) :
    Except Problem (σ × Input) :=
  match fuel with
  | 0 => .error .malformed
  | fuel + 1 =>
    match skipSpace input with
    | some '"' :: rest => do
      let (name, rest) ← stringTail rest
      let (state, rest) ← record.member state name rest
      match skipSpace rest with
      | some ',' :: rest => members record fuel state rest
      | some '\x7d' :: rest => .ok (state, rest)
      | _ => .error .malformed
    | _ => .error .malformed

/-- Reads the elements of the array form for the fields given, of which `index` come before. -/
def elements (record : Record σ) (index : Nat) (state : σ) :
    List (Field σ) → Input → Except Problem (σ × Input)
  | [], input =>
    match skipSpace input with
    | some ']' :: rest => .ok (state, rest)
    | _ => .error .malformed
  | field :: fields, input =>
    match skipSpace input with
    | some ']' :: rest =>
      if field.omissible then elements record (index + 1) state fields (some ']' :: rest)
      else .error (.wrongLength index s!"{record.title} with {record.fields.length} elements")
    | rest => do
      let rest ← if index = 0 then .ok rest else
        match rest with
        | some ',' :: rest =>
          match skipSpace rest with
          | some ']' :: _ => .error .malformed
          | rest => .ok rest
        | _ => .error .malformed
      let (state, rest) ← field.read state rest
      elements record (index + 1) state fields rest

/-- Reads a record in either form. -/
def reader (record : Record σ) : Reader σ := fun input =>
  match skipSpace input with
  | some '\x7b' :: rest => do
    let (state, rest) ← match skipSpace rest with
      | some '\x7d' :: rest => .ok (record.initial, rest)
      | rest => record.members (rest.length + 1) record.initial rest
    match record.missing? state with
    | some name => .error (.missingField name)
    | none => .ok (state, rest)
  | some '[' :: rest => record.elements 0 record.initial record.fields rest
  | rest => wrongType record.title rest

end Record

end LiveFlags.Json
