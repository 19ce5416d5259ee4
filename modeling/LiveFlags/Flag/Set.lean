import LiveFlags.Flag.Value
import LiveFlags.Json.Record
import LiveFlags.Text.Blank

/-!
# Flag sets

A flag set is what one fetch brings: flags by key and, if the source names one, a version. A set is
taken over only if its shape is right (`FlagSet.validate`): every key has between one and 256 bytes
and no blank or control character, and no flag is a bare `null`.
-/
namespace LiveFlags

/-- The flags by their keys. -/
abbrev Flags := Table FlagValue

/-- The flags of one fetch. -/
structure FlagSet where
  /-- The flags by key. -/
  flags : Flags
  /-- The version that the source gives to these flags. -/
  version : Option String

namespace FlagSet

/-- The set without flags and version. -/
def empty : FlagSet := ⟨.empty, none⟩

instance : Inhabited FlagSet := ⟨empty⟩

/-- A set of flags without a version. -/
def ofFlags (flags : Flags) : FlagSet := ⟨flags, none⟩

/-- The set with one flag more, or another value for it. -/
def withFlag (set : FlagSet) (key : String) (value : FlagValue) : FlagSet :=
  { set with flags := set.flags.insert key value }

/-- The set under another version. -/
def withVersion (set : FlagSet) (version : String) : FlagSet :=
  { set with version := some version }

end FlagSet

/-- The flags as plain JSON. -/
def Flags.toJson (flags : Flags) : Json.Value :=
  .object (flags.map FlagValue.toJson).entries

/-- The set as plain JSON; a version that is not there is left out. -/
def FlagSet.toJson (set : FlagSet) : Json.Value :=
  .object (("flags", set.flags.toJson) :: match set.version with
    | none => []
    | some version => [("version", .string version)])

namespace FlagSet

/-- Reads a flag inside `outer` arrays and objects. -/
def flagReader (outer : Nat) : Json.Reader FlagValue := do
  match FlagValue.decode? (← Json.value outer) with
  | some flag => return flag
  | none => Json.fail (.noVariant "FlagValue")

/-- What has been read of a set: the flags and the version, each if it has been met. -/
abbrev Partial := Option Flags × Option (Option String)

/-- The record that a set is written as, under the name of the record. -/
def record (title : String) : Json.Record Partial where
  title := title
  initial := (none, none)
  fields := [
    { name := "flags"
      present := fun read => read.1.isSome
      read := fun read => do return (some (← Json.table (flagReader 2)), read.2)
      required := true
      omissible := false },
    { name := "version"
      present := fun read => read.2.isSome
      read := fun read => do return (read.1, some (← Json.optional Json.string))
      required := false
      omissible := true }]

/-- Reads a set, under the name of the record in its problems. -/
def reader (title : String) : Json.Reader FlagSet := do
  let read ← (record title).reader
  return ⟨read.1.getD .empty, read.2.getD none⟩

/-- Reads a text that is one set. -/
def parse (text : String) : Except Json.Problem FlagSet :=
  Json.Reader.run (reader "struct FlagSet") (Json.Input.ofText text)

end FlagSet

/-- The greatest number of bytes in a key. -/
def maxKeyBytes : Nat := 256

/-- Why a flag set is refused. -/
inductive PayloadError where
  /-- A key has no characters. -/
  | emptyKey
  /-- A key has too many bytes. -/
  | keyTooLong (key : String)
  /-- A key holds a blank or a control character. -/
  | invalidKey (key : String)
  /-- The flag with this key is a bare `null`. -/
  | nullValue (key : String)
  deriving DecidableEq, Repr

namespace PayloadError

/-- The error in words. -/
def message : PayloadError → String
  | .emptyKey => "flag key is empty"
  | .keyTooLong key => s!"flag key exceeds {maxKeyBytes} bytes: {key}"
  | .invalidKey key => "flag key contains whitespace or control characters: " ++ Text.quote key
  | .nullValue key => s!"flag value is null: {key}"

end PayloadError

/-- Checks a key: its length first, then its characters. -/
def validateKey (key : String) : Except PayloadError Unit :=
  if key.isEmpty then .error .emptyKey
  else if maxKeyBytes < key.utf8ByteSize then .error (.keyTooLong key)
  else if key.toList.any fun c => Text.isBlank c || Text.isControl c then .error (.invalidKey key)
  else .ok ()

/-- Checks one flag: its key first, then its value. -/
def validateFlag (key : String) (value : FlagValue) : Except PayloadError Unit :=
  match validateKey key, value with
  | .error reason, _ => .error reason
  | .ok (), .json .null => .error (.nullValue key)
  | .ok (), _ => .ok ()

/-- Checks flags in the order given, up to the first that is refused. -/
def validateEntries : List (String × FlagValue) → Except PayloadError Unit
  | [] => .ok ()
  | (key, value) :: rest =>
    match validateFlag key value with
    | .error reason => .error reason
    | .ok () => validateEntries rest

/-- Checks every flag of a set. -/
def FlagSet.validate (set : FlagSet) : Except PayloadError Unit :=
  validateEntries set.flags.entries

end LiveFlags
