import LiveFlags.Url.Path

/-!
# Reading addresses

`Url.parse` reads an address by itself and `Url.join` one that may be relative to another. Blanks and
control characters at either end, and tabs and line ends anywhere, do not count. A text that begins
with a scheme and a colon stands by itself, unless a well-known scheme is that of the base and fewer
than two slashes follow; any other text takes from the base what it leaves out.
-/
namespace LiveFlags.Url

/-- A text cut at its number sign and its question mark. -/
structure Reference where
  /-- What comes first. -/
  body : List Char
  /-- What follows the question mark. -/
  query : Option (List Char)
  /-- What follows the number sign. -/
  fragment : Option (List Char)
  deriving DecidableEq, Repr

/-- The text before the first mark, and what follows the mark if it is there. -/
def cutAt (mark : Char) (chars : List Char) : List Char × Option (List Char) :=
  (chars.takeWhile (· ≠ mark), (chars.dropWhile (· ≠ mark)).tail?)

namespace Reference

/-- Cuts a text. -/
def ofChars (chars : List Char) : Reference :=
  let (front, fragment) := cutAt '#' chars
  let (body, query) := cutAt '?' front
  ⟨body, query, fragment⟩

/-- Whether anything stands where a path, a query or a fragment would. -/
def hasRest (reference : Reference) (path : List Char) : Bool :=
  !path.isEmpty || reference.query.isSome || reference.fragment.isSome

/-- An address with the query and the fragment of the reference. -/
def toUrl (reference : Reference) (scheme : String) (authority : Option Authority) (path : Path) :
    Url where
  scheme := scheme
  authority := authority
  path := path
  query := reference.query.map fun query =>
    String.ofList
      (percentEncode (if isSpecial scheme then isSpecialQueryEscaped else isQueryEscaped) query)
  fragment := reference.fragment.map fun fragment =>
    String.ofList (percentEncode isFragmentEscaped fragment)

end Reference

/-- Blanks and control characters at the ends, and tabs and line ends anywhere, are taken out. -/
def clean (chars : List Char) : List Char :=
  let isEdge (c : Char) : Bool := c.val ≤ 0x20
  let trimmed := ((chars.dropWhile isEdge).reverse.dropWhile isEdge).reverse
  trimmed.filter fun c => c ≠ '\t' && c ≠ '\n' && c ≠ '\r'

/-- The scheme in front of a colon, in lower case, and what follows. -/
def splitScheme? (chars : List Char) : Option (String × List Char) :=
  match cutAt ':' chars with
  | (first :: letters, some rest) =>
    if first.isAlpha && letters.all fun c => c.isAlphanum || c = '+' || c = '-' || c = '.' then
      some (String.ofList ((first :: letters).map Char.toLower), rest)
    else none
  | _ => none

/-- A slash of either kind. -/
def isSlash (c : Char) : Bool := c = '/' || c = '\\'

/-! ## Authorities -/

/-- The characters up to the first colon outside brackets, and the rest. -/
def splitHost (inBrackets : Bool) : List Char → List Char × List Char
  | [] => ([], [])
  | c :: rest =>
    if c = ':' && !inBrackets then ([], c :: rest)
    else
      let (host, port) := splitHost (if c = '[' then true else if c = ']' then false else inBrackets) rest
      (c :: host, port)

/-- The number that the digits at the front write, if there are any and it fits a port. -/
def readPort (digits : List Char) : Except Fault (Option UInt16) :=
  if digits.isEmpty then .ok none
  else
    match digitsIn? 10 digits with
    | some port => if port < 65536 then .ok (some (UInt16.ofNat port)) else .error .invalidPort
    | none => .error .invalidPort

/-- The port after the host, unless it is the one of the scheme, and what follows it up to the path. -/
def splitPort (scheme : String) (chars : List Char) : Except Fault (Option UInt16 × List Char) :=
  match chars with
  | ':' :: rest => do
    let port ← readPort (rest.takeWhile fun c => '0' ≤ c && c ≤ '9')
    let after := rest.dropWhile fun c => '0' ≤ c && c ≤ '9'
    if after.head?.all (· = '\\') then
      return (port.filter fun port => some port ≠ defaultPort? scheme, after)
    else .error .invalidPort
  | rest => .ok (none, rest)

/-- The user name and the password in front of the last `@`, and what follows it. -/
def splitUserinfo? (chars : List Char) : Option (List Char × List Char) :=
  if chars.contains '@' then
    let host := (chars.reverse.takeWhile (· ≠ '@')).reverse
    some (chars.take (chars.length - host.length - 1), host)
  else none

/-- A user name and a password. -/
def readUserinfo (chars : List Char) : String × String :=
  let (user, password) := cutAt ':' chars
  (String.ofList (percentEncode isUserinfoEscaped user),
    String.ofList (percentEncode isUserinfoEscaped (password.getD [])))

/-- Reads an authority, and returns what follows its port. -/
def readAuthority (scheme : String) (chars : List Char) (hasRest : Bool) :
    Except Fault (Authority × List Char) := do
  let (userinfo, hostAndPort) := (splitUserinfo? chars).getD ([], chars)
  if userinfo.isEmpty && chars = ['@'] && hasRest then throw .emptyHost
  let (user, password) := readUserinfo userinfo
  let (hostChars, portChars) := splitHost false hostAndPort
  if hostChars.isEmpty then
    if isSpecial scheme || !portChars.isEmpty then throw .emptyHost
  let host ← if isSpecial scheme then Host.readSpecial hostChars else Host.readPlain hostChars
  let (port, rest) ← splitPort scheme portChars
  if hostChars.isEmpty && !(user.isEmpty && password.isEmpty) then throw .emptyHost
  return (⟨user, password, host, port⟩, rest)

/-- Reads what follows the two slashes after a scheme. -/
def afterSlashes (scheme : String) (reference : Reference) (chars : List Char) : Except Fault Url := do
  let isEnd := isSeparator (isSpecial scheme)
  let path := chars.dropWhile (!isEnd ·)
  let (authority, rest) ←
    readAuthority scheme (chars.takeWhile (!isEnd ·)) (reference.hasRest path)
  return reference.toUrl scheme (some authority) (.segments (walkFromRoot scheme (rest ++ path)))

/-! ## Relative references -/

/-- Takes from the base what the reference leaves out; the reference names no scheme. -/
def relative (base : Url) (reference : Reference) : Except Fault Url :=
  let scheme := base.scheme
  match reference.body with
  | [] =>
    let url := reference.toUrl scheme base.authority base.path
    .ok { url with query := url.query.or base.query }
  | '/' :: '/' :: rest => afterSlashes scheme reference rest
  | first :: rest =>
    if isSlash first then
      if rest.head?.any isSlash then afterSlashes scheme reference (rest.dropWhile isSlash)
      else .ok (reference.toUrl scheme base.authority (.segments (walkChars scheme [] rest)))
    else
      .ok (reference.toUrl scheme base.authority
        (.segments (walkChars scheme base.segments.dropLast (first :: rest))))

/-! ## Files -/

/-- The text begins with a drive letter that is a segment of its own. -/
def beginsWithDrive (chars : List Char) : Bool :=
  isDriveLetter (chars.take 2) && (chars.drop 2).head?.all isSlash

/-- A host of a file; the machine itself has none. -/
def readFileHost (chars : List Char) : Except Fault Host :=
  if chars.isEmpty then .ok .none
  else (Host.readSpecial chars).map fun host => if host = .name "localhost" then .none else host

/-- The address of a file. -/
def fileUrl (reference : Reference) (host : Host) (names : List String) : Url :=
  reference.toUrl "file" (some (.ofHost host)) (.segments names)

/-- Reads what follows two slashes: a host, unless a drive letter stands in its place. A path that
begins with a drive letter has no host. -/
def fileAfterSlashes (reference : Reference) (chars : List Char) : Except Fault Url := do
  let hostChars := chars.takeWhile (!isSlash ·)
  if isDriveLetter hostChars then
    return fileUrl reference .none (walkFromRoot "file" chars)
  let host ← readFileHost hostChars
  let names := walkFromRoot "file" (chars.dropWhile (!isSlash ·))
  return fileUrl reference (if names.head?.any isNormalDriveLetter then .none else host) names

/-- The host of a file address. -/
def fileHost (url : Url) : Host := url.host?.getD .none

/-- Reads the address of a file, relative to another one if it is given. -/
def file (base? : Option Url) (reference : Reference) : Except Fault Url :=
  match base?, reference.body with
  | base?, first :: rest =>
    if isSlash first then
      match rest with
      | second :: afterSlashes =>
        if isSlash second then fileAfterSlashes reference afterSlashes else .ok (fromRoot rest)
      | [] => .ok (fromRoot [])
    else
      match base? with
      | some base =>
        if beginsWithDrive (first :: rest) then
          .ok (fileUrl reference .none (walkChars "file" [] (first :: rest)))
        else
          .ok (fileUrl reference (fileHost base)
            (walkChars "file" (parent true base.segments) (first :: rest)))
      | none => .ok (fileUrl reference .none (walkChars "file" [] (first :: rest)))
  | some base, [] => relative base reference
  | none, [] => .ok (fileUrl reference .none (walkChars "file" [] []))
where
  /-- One slash leads to the root of the base, on its host and its drive. -/
  fromRoot (rest : List Char) : Url :=
    match base? with
    | none => fileUrl reference .none (walkChars "file" [] rest)
    | some base =>
      if beginsWithDrive rest then fileUrl reference .none (walkChars "file" [] rest)
      else
        match base.segments.head?.filter isNormalDriveLetter with
        | some drive => fileUrl reference .none (walkChars "file" [drive] rest)
        | none => fileUrl reference (fileHost base) (walkChars "file" [] rest)

/-! ## All together -/

/-- Reads what follows a scheme that is not well known. -/
def plain (scheme : String) (reference : Reference) : Except Fault Url :=
  match reference.body with
  | '/' :: '/' :: rest => afterSlashes scheme reference rest
  | '/' :: rest => .ok (reference.toUrl scheme none (.segments (walkChars scheme [] rest)))
  | body =>
    .ok (reference.toUrl scheme none (.flat (String.ofList (percentEncode isControlOrBeyond body))))

/-- Reads what follows a scheme. -/
def afterScheme (base? : Option Url) (scheme : String) (reference : Reference) : Except Fault Url :=
  let base? := base?.filter (·.scheme = scheme)
  if scheme = "file" then file base? reference
  else if isSpecial scheme then
    match base? with
    | some base =>
      if (reference.body.takeWhile isSlash).length < 2 then relative base reference
      else afterSlashes scheme reference (reference.body.dropWhile isSlash)
    | none => afterSlashes scheme reference (reference.body.dropWhile isSlash)
  else plain scheme reference

/-- Reads an address, relative to another one if it is given. -/
def resolve (base? : Option Url) (text : String) : Except Fault Url :=
  let chars := clean text.toList
  match splitScheme? chars, base? with
  | some (scheme, rest), _ => afterScheme base? scheme (Reference.ofChars rest)
  | none, none => .error .relativeWithoutBase
  | none, some base =>
    let reference := Reference.ofChars chars
    if chars.head? = some '#' then relative base reference
    else if base.isFlat then .error .relativeToFlat
    else if base.scheme = "file" then file base? reference
    else relative base reference

/-- Reads an address that stands by itself. -/
def parse (text : String) : Except Fault Url := resolve none text

/-- Reads an address that may be relative to the base. -/
def join (base : Url) (text : String) : Except Fault Url := resolve (some base) text

end LiveFlags.Url
