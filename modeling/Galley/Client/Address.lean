import Galley.Client.Host

/-!
# Addresses

An address is a scheme, a host, perhaps a port, a path, and perhaps a query and a fragment. Reading
one gives it its *settled* form: scheme and host in small letters, the scheme's own port left out,
no steps such as `.` and `..` in the path, and characters that cannot stand in a place
percent-encoded. Blanks around an address, and tabs and line ends in it, do not count.

Known schemes have a host, and a backslash is a slash in their addresses. Addresses of other schemes
can have one; without it they have a path, or just a text.

Requests go to addresses whose scheme is `http` or `https`. Who asks is told otherwise, so the name
and the secret that can stand before the host are left out.
-/

namespace Galley.Client

/-- An address. Its host is empty if there is a place for one and nothing in it. -/
structure Address where
  scheme : String
  user : List Char
  secret : Option (List Char)
  host : Option Host
  port : Option Nat
  path : List Char
  query : Option (List Char)
  fragment : Option (List Char)
  deriving DecidableEq, Repr

namespace Address

/-- Why a request cannot go to an address. -/
inductive Fault where
  | noScheme
  | host (fault : Host.Fault)
  | badPort
  | unusableScheme (address : String)
  | unusable (address : String)
  deriving DecidableEq, Repr

/-- The causes of the failure that a fault brings about. -/
def Fault.causes : Fault → List String
  | noScheme => ["builder error", "relative URL without a base"]
  | host fault => ["builder error", fault.message]
  | badPort => ["builder error", "invalid port number"]
  | unusableScheme address =>
    ["builder error for url (" ++ address ++ ")", "URL scheme is not allowed"]
  | unusable address =>
    ["builder error for url (" ++ address ++ ")", "Parsed Url is not a valid Uri"]

-- ---------------------------------------------------------------------------
-- Characters
-- ---------------------------------------------------------------------------

/-- Whether a character can be seen and is in ASCII. -/
def isSeen (c : Char) : Bool := 0x20 < c.toNat && c.toNat < 0x7f

/-- Whether a character is left alone in a fragment. -/
def isFragmentChar (c : Char) : Bool := isSeen c && c ∉ ['"', '<', '>', '\x60']

/-- Whether a character is left alone in a query. -/
def isQueryChar (c : Char) : Bool := isSeen c && c ∉ ['"', '#', '<', '>']

/-- Whether a character is left alone in a path. -/
def isPathChar (c : Char) : Bool := isFragmentChar c && c ∉ ['#', '?', '\x7b', '\x7d']

/-- Whether a character is left alone in the name or the secret before a host. -/
def isUserChar (c : Char) : Bool :=
  isPathChar c && c ∉ ['/', ':', ';', '=', '@', '[', '\\', ']', '^', '|']

-- ---------------------------------------------------------------------------
-- Schemes
-- ---------------------------------------------------------------------------

/-- What is known about a scheme: that it has hosts, and the port that it has by itself; that it is
for files; or nothing. -/
inductive Scheme where
  | hosted (port : Nat)
  | file
  | unknown
  deriving DecidableEq, Repr

/-- The schemes that have hosts, with their ports. -/
def hostedSchemes : List (String × Nat) :=
  [("http", 80), ("https", 443), ("ws", 80), ("wss", 443), ("ftp", 21)]

/-- What is known about a scheme. -/
def Scheme.ofName (name : String) : Scheme :=
  match hostedSchemes.lookup name with
  | some port => hosted port
  | none => if name = "file" then file else unknown

/-- Whether a character separates the parts of an address. -/
def Scheme.isSlash (s : Scheme) (c : Char) : Bool := c = '/' || (c = '\\' && s ≠ unknown)

/-- Whether a scheme can hold a character. -/
def isSchemeChar (c : Char) : Bool := c.isAlphanum || c ∈ ['+', '-', '.']

/-- Cuts the scheme off, in small letters. -/
def cutScheme? (cs : List Char) : Option (String × List Char) :=
  let name := cs.takeWhile isSchemeChar
  match cs.drop name.length with
  | ':' :: rest =>
    if name.head?.any Char.isAlpha then some (String.ofList (name.map Char.toLower), rest)
    else none
  | _ => none

-- ---------------------------------------------------------------------------
-- Paths
-- ---------------------------------------------------------------------------

/-- Cuts a text into the parts between separators. -/
def partsBetween (isSeparator : Char → Bool) (cs : List Char) : List (List Char) :=
  cs.foldr
    (fun c parts =>
      match parts with
      | part :: parts => if isSeparator c then [] :: part :: parts else (c :: part) :: parts
      | [] => [[c]])
    [[]]

/-- The ways to write a dot in a step. -/
def dots : List (List Char) := [['.'], ['%', '2', 'e'], ['%', '2', 'E']]

/-- Whether a segment stays where it is. -/
def isStay (segment : List Char) : Bool := dots.any fun dot => segment = dot

/-- Whether a segment goes up. -/
def isUp (segment : List Char) : Bool := dots.any fun a => dots.any fun b => segment = a ++ b

/-- Whether a segment is a letter that stands for a drive. -/
def isDrive : List Char → Bool
  | [letter, c] => letter.isAlpha && (c = ':' || c = '|')
  | _ => false

/-- Goes up from segments, the last of which comes first. Nothing goes up from a drive. -/
def goUp : List (List Char) → List (List Char)
  | [] => []
  | segment :: segments => if isDrive segment then segment :: segments else segments

/-- Carries out the steps among segments, behind others, the last of which comes first. A step in
the last place leaves an empty segment. -/
def settleFrom (before : List (List Char)) : List (List Char) → List (List Char)
  | [] => before.reverse
  | segment :: segments =>
    let step? :=
      if isUp segment then some (goUp before) else if isStay segment then some before else none
    match step? with
    | some before => settleFrom (if segments.isEmpty then [] :: before else before) segments
    | none => settleFrom (segment :: before) segments

/-- The path of segments, behind a slash each. -/
def pathOf (segments : List (List Char)) : List Char :=
  (settleFrom [] segments).flatMap fun segment => '/' :: Text.percentEncoded isPathChar segment

/-- The path that a text with slashes writes. -/
def readPath (s : Scheme) (cs : List Char) : List Char :=
  let segments := partsBetween s.isSlash cs
  pathOf (if cs.head?.any s.isSlash then segments.drop 1 else segments)

-- ---------------------------------------------------------------------------
-- Hosts and ports
-- ---------------------------------------------------------------------------

/-- What stands before the last at sign of a text, if there is one, and what stands behind it. -/
def cutUser (cs : List Char) : Option (List Char) × List Char :=
  let host := (cs.reverse.takeWhile (· != '@')).reverse
  if host.length = cs.length then (none, cs)
  else (some (cs.take (cs.length - host.length - 1)), host)

/-- The text up to a colon that is not in brackets. -/
def hostPart : (inBrackets : Bool) → List Char → List Char
  | _, [] => []
  | inBrackets, c :: cs =>
    if c = ':' ∧ inBrackets = false then []
    else c :: hostPart (c = '[' || (inBrackets && c != ']')) cs

/-- Reads what stands behind the host: nothing, or a colon and a port. The scheme's own port is left
out. What a backslash begins is not part of the port. -/
def readPort (s : Scheme) (cs : List Char) : Except Fault (Option Nat × List Char) :=
  let digits := (cs.drop 1).takeWhile Char.isDigit
  let rest := (cs.drop 1).drop digits.length
  if rest.head?.any (· != '\\') || 65535 < Text.decimalValue digits then .error .badPort
  else
    let port := Text.decimalValue digits
    .ok (if digits.isEmpty ∨ s = .hosted port then none else some port, rest)

/-- The name and the secret that a text before a host writes. -/
def readUser (cs : List Char) : List Char × Option (List Char) :=
  let name := cs.takeWhile (· != ':')
  let secret := cs.drop (name.length + 1)
  (Text.percentEncoded isUserChar name,
    if secret.isEmpty then none else some (Text.percentEncoded isUserChar secret))

/-- Reads a host. -/
def readHost (s : Scheme) (cs : List Char) : Except Fault Host :=
  if s ≠ .unknown && cs.isEmpty then .error (.host .noHost)
  else (if s = .unknown then Host.readUnknown cs else Host.read cs).mapError .host

/-- Reads what follows the slashes before the host. `isLast` says that neither a query nor a
fragment follows. -/
def readAuthority (scheme : String) (isLast : Bool) (cs : List Char) : Except Fault Address := do
  let s := Scheme.ofName scheme
  let authority := cs.takeWhile fun c => !s.isSlash c
  let rest := cs.drop authority.length
  let (user?, place) := cutUser authority
  if user? = some [] ∧ place.isEmpty ∧ !(rest.isEmpty && isLast) then throw (.host .noHost)
  let (user, secret) := readUser (user?.getD [])
  let text := hostPart false place
  let host ← readHost s text
  let ending := place.drop text.length
  let isNamed := !user.isEmpty || secret.isSome
  if host = .name [] ∧ (!ending.isEmpty || isNamed) then throw (.host .noHost)
  let (port, behind) ← readPort s ending
  let path := if s = .unknown ∧ behind ++ rest = [] then [] else readPath s (behind ++ rest)
  return ⟨scheme, user, secret, some host, port, path, none, none⟩

-- ---------------------------------------------------------------------------
-- Addresses of files and of unknown schemes
-- ---------------------------------------------------------------------------

/-- The path of a file. A drive is written with a colon, and slashes in front of a path count as
one. -/
def filePath (cs : List Char) : List Char :=
  let segments := (partsBetween Scheme.file.isSlash cs).dropWhile List.isEmpty
  let segments := match segments with
    | [letter, '|'] :: rest => if letter.isAlpha then [letter, ':'] :: rest else segments
    | _ => segments
  '/' :: (pathOf segments).dropWhile (· = '/')

/-- Reads the address of a file, behind its scheme. This machine is not named. -/
def readFile (cs : List Char) : Except Fault Address := do
  let isSlash := Scheme.file.isSlash
  let ofHost (host : Host) (path : List Char) : Address :=
    ⟨"file", [], none, some host, none, filePath path, none, none⟩
  match cs with
  | a :: b :: rest =>
    let text := rest.takeWhile fun c => !isSlash c
    if !(isSlash a && isSlash b) || isDrive text then
      return ofHost (.name []) (if isSlash a && isSlash b then rest else cs)
    if text.isEmpty then return ofHost (.name []) rest
    let host ← (Host.read text).mapError .host
    let path := rest.drop text.length
    let isLocal := host = .name "localhost".toList
      || ((partsBetween isSlash path).find? (!·.isEmpty)).any isDrive
    return ofHost (if isLocal then .name [] else host) path
  | _ => return ofHost (.name []) cs

/-- Reads an address without a host, behind its scheme: a path, or just a text. A path that begins
with two slashes gets a step in front, so that what follows is not taken for a host. -/
def readHostless (scheme : String) (cs : List Char) : Address :=
  let path :=
    if cs.head? = some '/' then readPath .unknown cs
    else Text.percentEncoded Host.isVisibleAscii cs
  let path := if ['/', '/'].isPrefixOf path then '/' :: '.' :: path else path
  ⟨scheme, [], none, none, none, path, none, none⟩

-- ---------------------------------------------------------------------------
-- Reading
-- ---------------------------------------------------------------------------

/-- Leaves out blanks and control characters around a text, and tabs and line ends in it. -/
def cleaned (cs : List Char) : List Char :=
  let isBlank (c : Char) : Bool := c.toNat ≤ 0x20
  let inner := ((cs.dropWhile isBlank).reverse.dropWhile isBlank).reverse
  inner.filter (· ∉ ['\t', '\n', '\r'])

/-- Cuts a text at the first character of a kind. -/
def cutAt (mark : Char) (cs : List Char) : List Char × Option (List Char) :=
  let before := cs.takeWhile (· != mark)
  match cs.drop before.length with
  | _ :: behind => (before, some behind)
  | [] => (before, none)

/-- Reads what follows the scheme, up to the query. -/
def readPlace (scheme : String) (isLast : Bool) (cs : List Char) : Except Fault Address :=
  match Scheme.ofName scheme with
  | .hosted _ => readAuthority scheme isLast (cs.dropWhile fun c => c = '/' || c = '\\')
  | .file => readFile cs
  | .unknown =>
    if ['/', '/'].isPrefixOf cs then readAuthority scheme isLast (cs.drop 2)
    else .ok (readHostless scheme cs)

/-- Whether a character is left alone in the query of an address. -/
def isLeftInQuery (s : Scheme) (c : Char) : Bool := isQueryChar c && (s = .unknown || c != '\x27')

/-- Reads an address. -/
def read (text : String) : Except Fault Address := do
  match cutScheme? (cleaned text.toList) with
  | none => throw .noScheme
  | some (scheme, cs) =>
    let (cs, fragment) := cutAt '#' cs
    let (cs, query) := cutAt '?' cs
    let place ← readPlace scheme (query.isNone && fragment.isNone) cs
    return { place with
      query := query.map (Text.percentEncoded (isLeftInQuery (.ofName scheme)))
      fragment := fragment.map (Text.percentEncoded isFragmentChar) }

-- ---------------------------------------------------------------------------
-- Writing
-- ---------------------------------------------------------------------------

/-- The name and the secret before the host, in writing. -/
def userText (a : Address) : String :=
  let secret := match a.secret with
    | some secret => ":" ++ String.ofList secret
    | none => ""
  if a.user.isEmpty && a.secret.isNone then "" else String.ofList a.user ++ secret ++ "@"

/-- An address in writing. -/
def toText (a : Address) : String :=
  let place := match a.host with
    | some host =>
      let port := match a.port with
        | some port => ":" ++ toString port
        | none => ""
      "//" ++ a.userText ++ host.toText ++ port
    | none => ""
  let part (mark : String) : Option (List Char) → String
    | some cs => mark ++ String.ofList cs
    | none => ""
  a.scheme ++ ":" ++ place ++ String.ofList a.path ++ part "?" a.query ++ part "#" a.fragment

-- ---------------------------------------------------------------------------
-- Requests
-- ---------------------------------------------------------------------------

/-- Whether a percent-encoded text is one. -/
def isText (cs : List Char) : Bool := (Text.decode? (Text.percentBytes cs)).isSome

/-- The address without the name and the secret before its host, if they can be read. -/
def anonymous (a : Address) : Address :=
  if isText a.user && (!a.user.isEmpty || a.secret.any isText) then
    { a with user := [], secret := none }
  else a

/-- How many bytes an address can have that a request can go to. -/
def sizeLimit : Nat := 65534

/-- Whether a request can go to a host. -/
def isReachable : Host → Bool
  | .name text => text.all (· ∉ ['"', '\x60', '\x7b', '\x7d'])
  | _ => true

/-- The address that a request goes to, as it is written in the request. -/
def destination (text : String) : Except Fault String := do
  let a := (← read text).anonymous
  let text := a.toText
  if a.scheme ∉ ["http", "https"] then throw (.unusableScheme text)
  if !a.host.all isReachable || sizeLimit < text.utf8ByteSize then throw (.unusable text)
  return text

end Address

end Galley.Client
