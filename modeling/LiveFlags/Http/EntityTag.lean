/-!
# Entity tags

A strong entity tag is an opaque text between double quotes; a weak one has `W/` in front. A version
that is to be compared with entity tags is put between quotes unless it looks like a tag already
(`quote`), and a tag is taken as a version without its marks (`unquote`).
-/
namespace LiveFlags.Http.EntityTag

/-- A version as an entity tag: as it is if it begins like one, between quotes otherwise. -/
def quote (version : String) : String :=
  match version.toList with
  | '"' :: _ => version
  | 'W' :: '/' :: _ => version
  | chars => String.ofList ('"' :: chars ++ ['"'])

/-- The characters after every `W/` in front. -/
def dropWeakMarks : List Char → List Char
  | 'W' :: '/' :: rest => dropWeakMarks rest
  | chars => chars

/-- The characters without the quotes at either end. -/
def dropQuotes (chars : List Char) : List Char :=
  ((chars.dropWhile (· = '"')).reverse.dropWhile (· = '"')).reverse

/-- What an entity tag says, without its marks. -/
def unquote (tag : String) : String := String.ofList (dropQuotes (dropWeakMarks tag.toList))

end LiveFlags.Http.EntityTag
