/-!
# TOML tables

A TOML document is a table. Its entries come from lines `key = value`, from dotted keys, which make
the tables on their way, and from the headers `[table]` and `[[array of tables]]`. A table may be
written only once: a header opens a table that at most other headers have led through, and a dotted
key extends only tables that dotted keys have made. `Entries.within` finds or makes the table that a
path leads to; `addEntry`, `openTable` and `openElement` are the three ways to write.
-/
namespace LiveFlags.Toml

/-- How a table has come to be. -/
inductive TableKind where
  /-- Written by a header, or the document itself. -/
  | written
  /-- Led through by a header. -/
  | implied
  /-- Made by a dotted key. -/
  | dotted
  deriving DecidableEq, Repr

/-- A value, or a part of the document. -/
inductive Value where
  /-- A text. -/
  | string (value : String)
  /-- A whole number of 64 bits. -/
  | integer (value : Int)
  /-- A double. -/
  | float (value : Float)
  /-- A truth value. -/
  | boolean (value : Bool)
  /-- A date, a time of day or both, as written. -/
  | dateTime (text : String)
  /-- A list of values. -/
  | array (elements : List Value)
  /-- A table written in braces. -/
  | inline (entries : List (String × Value))
  /-- A table of the document. -/
  | table (kind : TableKind) (entries : List (String × Value))
  /-- An array of tables of the document: the elements before the last, and the last. -/
  | tables (earlier : List (List (String × Value))) (last : List (String × Value))
  deriving Repr, Inhabited

/-- The entries of a table in the order in which they are written. -/
abbrev Entries := List (String × Value)

namespace Entries

/-- The value of a key. -/
def get? (key : String) (entries : Entries) : Option Value :=
  (entries.find? fun entry => entry.1 = key).map (·.2)

/-- The entries with another value for a key. -/
def replace (key : String) (value : Value) (entries : Entries) : Entries :=
  entries.map fun entry => if entry.1 = key then (key, value) else entry

/-- Changes the table that a path leads to; tables that are not there are made on the way. The path
is that of a header (`made = .implied`) or of a dotted key (`made = .dotted`). -/
def within (made : TableKind) (change : TableKind → Entries → Option Entries) :
    List String → TableKind → Entries → Option Entries
  | [], kind, entries => change kind entries
  | key :: path, _, entries =>
    match entries.get? key with
    | none => do
      let inner ← within made change path made []
      return entries ++ [(key, .table made inner)]
    | some (.table kind inner) =>
      if made = .dotted ∧ kind = .written then none
      else do
        let inner ← within made change path kind inner
        return entries.replace key (.table kind inner)
    | some (.tables earlier last) => do
      let last ← within made change path .written last
      return entries.replace key (.tables earlier last)
    | some _ => none

/-- Adds the entry of a line with a possibly dotted key, or of a brace. -/
def addEntry (path : List String) (key : String) (value : Value) (entries : Entries) :
    Option Entries :=
  within .dotted (fun kind entries =>
    -- A key without dots belongs in a table that is written, one with dots in a dotted table.
    if decide (kind = .dotted) = path.isEmpty then none
    else if (entries.get? key).isSome then none
    else some (entries ++ [(key, value)])) path .written entries

/-- Opens the table of a header. -/
def openTable (path : List String) (key : String) (entries : Entries) : Option Entries :=
  within .implied (fun _ entries =>
    match entries.get? key with
    | none => some (entries ++ [(key, .table .written [])])
    | some (.table .implied inner) => some (entries.replace key (.table .written inner))
    | some _ => none) path .written entries

/-- Opens a further element of the array of tables of a header. -/
def openElement (path : List String) (key : String) (entries : Entries) : Option Entries :=
  within .implied (fun _ entries =>
    match entries.get? key with
    | none => some (entries ++ [(key, .tables [] [])])
    | some (.tables earlier last) => some (entries.replace key (.tables (earlier ++ [last]) []))
    | some _ => none) path .written entries

/-- Adds an entry to the table that the last header has opened. -/
def addEntryUnder (header path : List String) (key : String) (value : Value) (entries : Entries) :
    Option Entries :=
  within .implied (fun _ entries => entries.addEntry path key value) header .written entries

end Entries

end LiveFlags.Toml
