import LiveFlags.Client.Basic

/-!
# Evaluating flags

Every evaluation reads the visible snapshot once and changes nothing. `isEnabled` tells a flag that is
absent from one of the wrong kind; the getters fall back to a default instead, and those that ask for
one kind leave a warning in the log when the flag is of another.
-/
namespace LiveFlags

/-- Why a flag cannot be evaluated. -/
inductive EvaluationError where
  /-- There is no such flag. -/
  | notFound (key : String)
  /-- The flag holds a value of another kind. -/
  | typeMismatch (key expected actual : String)
  deriving DecidableEq, Repr

namespace EvaluationError

/-- The error in words. -/
def message : EvaluationError → String
  | .notFound key => s!"Flag not found: {key}"
  | .typeMismatch key expected actual =>
    s!"Invalid value type for flag {key}: expected {expected}, got {actual}"

/-- The key that was evaluated. -/
def key : EvaluationError → String
  | .notFound key => key
  | .typeMismatch key _ _ => key

/-- Whether the flag is there but of the wrong kind. -/
def isMisconfigured : EvaluationError → Bool
  | .notFound _ => false
  | .typeMismatch _ _ _ => true

end EvaluationError

namespace Snapshot

/-- Whether a flag is on. -/
def isEnabled (snapshot : Snapshot) (key : String) : Except EvaluationError Bool :=
  match snapshot.get? key with
  | some (.boolean on) => .ok on
  | some other => .error (.typeMismatch key "boolean" other.kind)
  | none => .error (.notFound key)

/-- The value of a flag, or the default if it is absent. -/
def get (snapshot : Snapshot) (key : String) (fallback : FlagValue) : FlagValue :=
  (snapshot.get? key).getD fallback

/-- Whether a flag is on, or the default if that cannot be said. -/
def getBool (snapshot : Snapshot) (key : String) (fallback : Bool) : Bool :=
  match snapshot.isEnabled key with
  | .ok on => on
  | .error _ => fallback

/-- The warning of asking whether a flag is on. -/
def getBoolEvents (snapshot : Snapshot) (key : String) : List Event :=
  match snapshot.isEnabled key with
  | .ok _ => []
  | .error (.notFound _) => []
  | .error error => [.notBoolean key error.message]

/-- The text of a flag, or the default if it holds none. -/
def getText (snapshot : Snapshot) (key fallback : String) : String :=
  match snapshot.get? key with
  | some (.text value) => value
  | _ => fallback

/-- The warning of asking for the text of a flag. -/
def getTextEvents (snapshot : Snapshot) (key : String) : List Event :=
  match snapshot.get? key with
  | some (.text _) => []
  | some other => [.notText key other.kind]
  | none => []

/-- A flag as plain JSON, or the default if it is absent. -/
def getJson (snapshot : Snapshot) (key : String) (fallback : Json.Value) : Json.Value :=
  ((snapshot.get? key).map FlagValue.toJson).getD fallback

end Snapshot

namespace Client

/-- The value of a flag, or the default if it is absent. -/
def get (client : Client) (key : String) (fallback : FlagValue) : FlagValue :=
  client.snapshot.get key fallback

/-- The value of a flag, if it is there. -/
def getValue? (client : Client) (key : String) : Option FlagValue := client.snapshot.get? key

/-- Whether a flag is on. -/
def isEnabled (client : Client) (key : String) : Except EvaluationError Bool :=
  client.snapshot.isEnabled key

/-- Whether a flag is on, or the default if that cannot be said; the client has logged a warning if
the flag is of another kind. -/
def getBool (client : Client) (key : String) (fallback : Bool) : Bool × Client :=
  (client.snapshot.getBool key fallback, client.logging (client.snapshot.getBoolEvents key))

/-- The text of a flag, or the default if it holds none; the client has logged a warning if the flag
is of another kind. -/
def getText (client : Client) (key fallback : String) : String × Client :=
  (client.snapshot.getText key fallback, client.logging (client.snapshot.getTextEvents key))

/-- A flag as plain JSON, or the default if it is absent. -/
def getJson (client : Client) (key : String) (fallback : Json.Value) : Json.Value :=
  client.snapshot.getJson key fallback

/-- Every visible flag. -/
def allFlags (client : Client) : Flags := client.snapshot.flags

end Client

end LiveFlags
