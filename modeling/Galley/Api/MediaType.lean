/-!
# Media types

The type of a body, such as `application/json; charset=utf-8`: a type, a subtype that may carry a
suffix after a plus, and parameters. Only a well-formed one counts. A body is JSON if the type is
`application` and the subtype or its suffix is `json`, in small or capital letters.
-/

namespace Galley

/-- A media type without its parameters. -/
structure MediaType where
  type : String
  subtype : String
  suffix : Option String
  deriving DecidableEq, Repr

namespace MediaType

/-- Whether a character can stand in a name. -/
def isToken (c : Char) : Bool :=
  c.isAlphanum || c ∈ "!#$%&'*+-.^_`|~".toList

/-- Whether a character can stand in a quoted value. -/
def isQuotable (c : Char) : Bool := 31 < c.toNat && c.toNat < 127

/-- The rest of a text after a quoted value, its opening quote already passed. A quoted value is not
empty, so a quote at its start belongs to it. -/
def afterQuoted (first : Bool) : List Char → Option (List Char)
  | [] => none
  | c :: cs =>
    if c = '"' ∧ first = false then some cs
    else if isQuotable c then afterQuoted false cs
    else none

/-- The text at the next parameter: behind the semicolon that ends a quoted value. -/
def nextParameter : List Char → Option (List Char)
  | [] => some []
  | ' ' :: cs => nextParameter cs
  | ';' :: cs => some cs
  | _ => none

/-- Whether a text is a list of parameters, each a name, an equals sign and a value, parted by
semicolons; the last may be empty. The fuel bounds the length of the text. -/
def areParameters : (fuel : Nat) → List Char → Bool
  | 0, _ => false
  | _ + 1, [] => true
  | fuel + 1, ' ' :: cs => areParameters fuel cs
  | fuel + 1, cs =>
    let name := cs.takeWhile isToken
    match cs.dropWhile isToken with
    | '=' :: '"' :: rest =>
      !name.isEmpty && match afterQuoted true rest >>= nextParameter with
        | some rest => areParameters fuel rest
        | none => false
    | '=' :: rest =>
      let value := rest.takeWhile isToken
      !name.isEmpty && match rest.dropWhile isToken with
        | [] => true
        | ';' :: rest => !value.isEmpty && areParameters fuel rest
        | _ => false
    | _ => false

/-- A name in small letters. -/
def lower (cs : List Char) : String := String.ofList (cs.map Char.toLower)

/-- A subtype, cut at its last plus that is not at its start. -/
def cutSuffix (cs : List Char) : List Char × Option (List Char) :=
  let tail := (cs.reverse.takeWhile (· != '+')).reverse
  let head := cs.take (cs.length - tail.length - 1)
  if tail.length = cs.length ∨ head = [] then (cs, none) else (head, some tail)

/-- Reads a media type. -/
def read? (text : String) : Option MediaType :=
  let cs := text.toList
  let type := cs.takeWhile isToken
  match cs.dropWhile isToken with
  | '/' :: rest =>
    let name := rest.takeWhile isToken
    let parameters := rest.dropWhile isToken
    let fine := match parameters with
      | [] => true
      | ';' :: more => areParameters (more.length + 1) more
      | _ => false
    if type.isEmpty || !fine || (name.isEmpty && !parameters.isEmpty) then none
    else
      let (subtype, suffix) := cutSuffix name
      some ⟨lower type, lower subtype, suffix.map lower⟩
  | _ => none

/-- Whether a body of the type is JSON. -/
def isJson (m : MediaType) : Bool :=
  m.type == "application" && (m.subtype == "json" || m.suffix == some "json")

end MediaType

end Galley
