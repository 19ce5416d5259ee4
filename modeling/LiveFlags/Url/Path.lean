import LiveFlags.Text.Pieces
import LiveFlags.Url.Basic

/-!
# Walking along a path

The segments of a reference are taken one after the other from where the base leaves off: an ordinary
segment is appended, a segment of one dot stays, a segment of two dots goes back by one, and neither
of the last two leaves the path without a segment at its end. A dot may be percent-encoded. Under the
scheme `file` a drive letter at the front of the path is never left, and empty segments at the front
are dropped.
-/
namespace LiveFlags.Url

/-- The forms of a dot. -/
def dotForms : List (List Char) := [['.'], ['%', '2', 'e'], ['%', '2', 'E']]

/-- The segment stays where it is. -/
def isDot (segment : List Char) : Bool := dotForms.contains segment

/-- The segment goes back by one. -/
def isTwoDots (segment : List Char) : Bool :=
  dotForms.any fun first => dotForms.any fun second => first ++ second = segment

/-- The text is a letter and a colon, or a letter and a bar. -/
def isDriveLetter (chars : List Char) : Bool :=
  match chars with
  | [letter, mark] => letter.isAlpha && (mark = ':' || mark = '|')
  | _ => false

/-- The text is a letter and a colon. -/
def isNormalDriveLetter (text : String) : Bool :=
  isDriveLetter text.toList && text.toList.getLast? = some ':'

/-- The path without its last segment; the drive letter of a file stays. -/
def parent (isFile : Bool) (names : List String) : List String :=
  match names with
  | [drive] => if isFile && isNormalDriveLetter drive then [drive] else []
  | names => names.dropLast

/-- The path after one segment, which is the last one of its reference or not. -/
def walkSegment (isFile isLast : Bool) (names : List String) (segment : List Char) : List String :=
  let settled (names : List String) : List String := if isLast then names ++ [""] else names
  if isTwoDots segment then settled (parent isFile names)
  else if isDot segment then settled names
  else if isFile && names.isEmpty && isDriveLetter segment then
    [String.ofList (segment.take 1 ++ [':'])]
  else names ++ [String.ofList (percentEncode isPathEscaped segment)]

/-- The path after the segments of a reference. -/
def walk (isFile : Bool) (names : List String) : List (List Char) → List String
  | [] => names
  | [last] => walkSegment isFile true names last
  | segment :: rest => walk isFile (walkSegment isFile false names segment) rest

/-- The path without empty segments in front of another. -/
def dropEmptyFront : List String → List String
  | "" :: second :: rest => dropEmptyFront (second :: rest)
  | names => names

/-- The character separates segments: a slash, or under a well-known scheme also a backslash. -/
def isSeparator (special : Bool) (c : Char) : Bool := c = '/' || (special && c = '\\')

/-- The path that characters lead to from the segments of a base. -/
def walkChars (scheme : String) (names : List String) (chars : List Char) : List String :=
  let isFile := scheme = "file"
  let walked := walk isFile names (Text.pieces (isSeparator (isSpecial scheme)) chars)
  if isFile then dropEmptyFront walked else walked

/-- The path that characters lead to from the root, whether or not a separator stands in front. -/
def walkFromRoot (scheme : String) (chars : List Char) : List String :=
  match chars with
  | c :: rest => walkChars scheme [] (if isSeparator (isSpecial scheme) c then rest else c :: rest)
  | [] => if isSpecial scheme then [""] else []

end LiveFlags.Url
