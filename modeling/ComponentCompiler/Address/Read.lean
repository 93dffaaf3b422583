import ComponentCompiler.Address.Basic
import ComponentCompiler.Address.Escape
import ComponentCompiler.Address.Host
import ComponentCompiler.HostName.Encoded
import ComponentCompiler.Number.Whole
import ComponentCompiler.Text.Casing
import ComponentCompiler.Text.Search
import ComponentCompiler.Value.ReadFault

namespace ComponentCompiler
namespace Address

open Number

/-!
# Reading addresses

The parts of an address are told apart by their marks.  Schemes and hosts are
written small, the usual port number of a scheme is left out, and characters that a
part cannot hold are escaped.  The name of a host is put into basic Latin instead.
-/

/-- The scheme in front of a colon, and what follows; both are the text itself
when there is none. -/
def splitScheme (characters : List Char) : List Char × List Char :=
  let name := characters.takeWhile fun character =>
    character.isAlphanum || "+.-".toList.contains character
  let starts := (name.head?.map Char.isAlpha).getD true
  match characters.drop name.length with
  | ':' :: rest => if starts then (name, rest) else ([], characters)
  | _ => ([], characters)

/-- What stands before a mark, and what stands behind it, when it is there. -/
def splitAtMark (mark : Char) (characters : List Char) : List Char × Option (List Char) :=
  match characters.span fun character => character ≠ mark with
  | (before, _ :: behind) => (before, some behind)
  | (before, []) => (before, none)

/-- The host and the port number of an authority without its user. -/
def splitHost (characters : List Char) : List Char × List Char :=
  let bracketed := (characters.reverse.dropWhile fun character => character ≠ ']').reverse
  let host :=
    if characters.head? = some '[' && !bracketed.isEmpty then bracketed
    else characters.takeWhile fun character => character ≠ ':' && character ≠ '@'
  match characters.drop host.length with
  | ':' :: portNumber => (host, portNumber)
  | portNumber => (host, portNumber)

/-- The usual port number of a scheme. -/
def usualPortNumber (scheme : String) : Option Int :=
  match scheme with
  | "ftp" => some 21
  | "http" | "ws" => some 80
  | "https" | "wss" => some 443
  | _ => none

/-- The port number of an address. -/
def readPortNumber (scheme : String) (characters : List Char) : Except AddressFault (Option Int) :=
  if characters.isEmpty then .ok none
  else
    let marked := (withoutUnderscores? (takeSign (Text.unpadded characters)).2).isSome
    let text := WholeText.ofChars 10 (characters.filter fun character => character ≠ '_')
    if marked && text.isComplete && text.digits.length ≤ mostDigits then
      let portNumber := text.number 10
      .ok (if usualPortNumber scheme = some portNumber then none else some portNumber)
    else .error (.portNumber (String.ofList characters))

/-- The host of an address. -/
def readHost (characters : List Char) : Except AddressFault String :=
  let text := String.ofList characters
  if looksLikeFour characters then
    if isFourBytes characters then .ok text else .error (.fourByteHost text)
  else if characters.head? = some '[' && characters.getLast? = some ']' then
    let inner := (characters.drop 1).dropLast
    if isSixteenBytes inner then .ok (String.ofList inner) else .error (.sixteenByteHost text)
  else
    let small := Text.lower characters
    if characters.all fun character => character.toNat < 0x80 then .ok (escaped isHostChar small)
    else
      match HostName.encode? small with
      | some name => .ok name
      | none => .error (.namedHost text)

/-- The names of a path without single dots, and with each double dot taken
together with the name before it. -/
def normalNames : List (List Char) → List (List Char) → List (List Char)
  | kept, [] => kept
  | kept, ['.'] :: rest => normalNames kept rest
  | kept, ['.', '.'] :: rest =>
    normalNames (if kept = [[]] then kept else kept.dropLast) rest
  | kept, name :: rest => normalNames (kept ++ [name]) rest

/-- A path without dots that lead nowhere. -/
def normalPath (characters : List Char) : List Char :=
  let names := Text.piecesAt '/' characters
  if names.contains ['.'] || names.contains ['.', '.'] then
    (Text.joinWith "/" ((normalNames [] names).map String.ofList)).toList
  else characters

/-- The position of the first character that passes a test, with the character. -/
def findChar? (test : Char → Bool) (position : Nat) : List Char → Option (Char × Nat)
  | [] => none
  | character :: rest =>
    if test character then some (character, position) else findChar? test (position + 1) rest

/-- Whether a character is a control character of the basic Latin block. -/
def isControl (character : Char) : Bool :=
  character.toNat < 0x20 || character.toNat = 0x7F

/-- The most characters that an address may have. -/
def mostCharacters : Nat := 65536

/-- Read an address. -/
def read (text : String) : Except AddressFault Address := do
  let characters := text.toList
  if mostCharacters < characters.length then .error .tooLong
  match findChar? isControl 0 characters with
  | some (character, position) => .error (.control character position)
  | none =>
    let (schemeName, behindScheme) := splitScheme characters
    let scheme := String.ofList (schemeName.map Char.toLower)
    let (authority, behindAuthority) :=
      match behindScheme with
      | '/' :: '/' :: rest => rest.span fun character => !"/?#".toList.contains character
      | rest => ([], rest)
    let (beforeFragment, fragment) := splitAtMark '#' behindAuthority
    let (path, query) := splitAtMark '?' beforeFragment
    let (user, hostAndPort) :=
      match splitAtMark '@' authority with
      | (user, some rest) => (user, rest)
      | (_, none) => ([], authority)
    let (hostText, portText) := splitHost hostAndPort
    let host ← readHost hostText
    let portNumber ← readPortNumber scheme portText
    let hasScheme := !scheme.isEmpty
    let hasAuthority := !user.isEmpty || !host.isEmpty || portNumber.isSome
    if hasAuthority && !path.isEmpty && path.head? ≠ some '/' then .error .pathWithoutSlash
    if !hasScheme && !hasAuthority && path.take 2 = ['/', '/'] then .error .pathWithSlashes
    if !hasScheme && !hasAuthority && path.head? = some ':' then .error .pathWithColon
    let plain := if hasScheme || hasAuthority then normalPath path else path
    return {
      scheme := scheme
      user := escaped isUserChar user
      host := host
      portNumber := portNumber
      path := escaped isPathChar plain
      query := query.map (escaped isQueryChar)
      fragment := fragment.map (escaped isFragmentChar) }

/-- The place of an address that leaves out its scheme or its host: its path from
the root on, with its query.  An absolute address is its own place. -/
def place (address : Address) : Address :=
  if address.isAbsolute then address
  else
    let path := '/' :: address.path.toList.dropWhile fun character => character = '/'
    { scheme := "", user := "", host := "", portNumber := none, path := String.ofList path,
      query := address.query, fragment := none }

end Address
end ComponentCompiler
