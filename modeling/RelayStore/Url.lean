import RelayStore.Url.Host
import RelayStore.Url.Path

/-! URLs that stand on their own. -/
namespace RelayStore

structure Url where
  scheme : String
  /-- Name and password of a user, with the sign behind them. -/
  user : String := ""
  /-- Nothing where no host can stand, an empty name where it is left out. -/
  host : Option Url.Host := none
  /-- The number of the socket, unless it is the usual one. -/
  socket : Option Nat := none
  path : String
  fragment : Option String := none
  deriving DecidableEq, Repr

namespace Url

/-- The usual socket of a scheme. The schemes that have one stand before hosts of a known form. -/
def usualSocket? (scheme : String) : Option Nat :=
  if scheme = "http" ∨ scheme = "ws" then some 80
  else if scheme = "https" ∨ scheme = "wss" then some 443
  else if scheme = "ftp" then some 21
  else none

def isSchemeChar (c : Char) : Bool := c.isAlphanum || c = '+' || c = '-' || c = '.'

/-- The scheme in lower case and what follows its colon. -/
def splitScheme? (text : List Char) : Option (String × List Char) :=
  let scheme := text.takeWhile isSchemeChar
  match scheme.head?.any Char.isAlpha, text.dropWhile isSchemeChar with
  | true, ':' :: rest => some (String.ofList (scheme.map Char.toLower), rest)
  | _, _ => none

/-- How the characters of a URL part it. -/
structure Style where
  /-- A backslash parts like a slash, and there is always a path. -/
  known : Bool
  deriving DecidableEq, Repr

namespace Style

def isSlash (s : Style) (c : Char) : Bool := c = '/' || (s.known && c = '\\')

def endsPath (c : Char) : Bool := c = '?' || c = '#'

def endsAuthority (s : Style) (c : Char) : Bool := s.isSlash c || endsPath c

end Style

/-- What stands before the last occurrence of a character, and what stands behind it. -/
def cutLast? (c : Char) (text : List Char) : Option (List Char × List Char) :=
  match text.reverse.dropWhile (· ≠ c) with
  | [] => none
  | _ :: before => some (before.reverse, (text.reverse.takeWhile (· ≠ c)).reverse)

def userText (text : List Char) : String :=
  let name := text.takeWhile (· ≠ ':')
  let password := text.drop (name.length + 1)
  if name = [] ∧ password = [] then ""
  else
    String.ofList (percentEncode isEncodedInUser name ++
      (if password = [] then [] else ':' :: percentEncode isEncodedInUser password) ++ ['@'])

/-- The user before the last at sign. An at sign alone needs a host behind it. -/
def readUser (authority rest : List Char) : Except Fault (String × List Char) :=
  match cutLast? '@' authority with
  | none => .ok ("", authority)
  | some ([], []) => if rest = [] then .ok ("", []) else .error .noHost
  | some (user, host) => .ok (userText user, host)

/-- The host ends at a colon that is not in brackets. -/
def splitHost (inside : Bool) : List Char → List Char × List Char
  | [] => ([], [])
  | c :: rest =>
    if c = ':' ∧ !inside then ([], c :: rest)
    else
      let (host, socket) := splitHost (c = '[' || (inside && c ≠ ']')) rest
      (c :: host, socket)

/-- The number behind the colon, if it is not the usual one. A backslash ends it in any style. -/
def readSocket (usual : Option Nat) (text : List Char) : Except Fault (Option Nat) :=
  let text := text.takeWhile (· ≠ '\\')
  if text.any fun c => !c.isDigit then .error .badSocket
  else
    let n := text.foldl (fun n c => 10 * n + (c.toNat - 48)) 0
    if 65535 < n then .error .badSocket
    else .ok (if text = [] ∨ some n = usual then none else some n)

def readHost (style : Style) (text : List Char) : Except Fault Host :=
  if !style.known then Host.ofOpaque text
  else if text = [] then .error .noHost
  else Host.ofText text

/-- The path up to a question mark or a hash. -/
def readPath (style : Style) (text : List Char) : String :=
  match text.takeWhile fun c => !Style.endsPath c with
  | [] => if style.known then "/" else ""
  | c :: rest => pathOf (Text.pieces style.isSlash (if style.isSlash c then rest else c :: rest))

def readFragment (text : List Char) : Option String :=
  match text.dropWhile (· ≠ '#') with
  | [] => none
  | _ :: rest => some (String.ofList (percentEncode isEncodedInFragment rest))

/-- User, host and socket up to the path. The host is judged before the socket. -/
def ofAuthority (scheme : String) (style : Style) (text : List Char) : Except Fault Url := do
  let authority := text.takeWhile fun c => !style.endsAuthority c
  let rest := text.drop authority.length
  let (user, authority) ← readUser authority rest
  let (host, socket) := splitHost false authority
  let host ← readHost style host
  if host = .name "" ∧ (socket ≠ [] ∨ user ≠ "") then .error .noHost
  let behind := (socket.dropWhile (· ≠ '\\')) ++ rest
  let socket ← readSocket (usualSocket? scheme) (socket.drop 1)
  return {
    scheme := scheme
    user := user
    host := some host
    socket := socket
    path := readPath style behind
    fragment := readFragment behind }

/-- A file has a host behind two slashes only, which may be left out, and a drive has none. -/
def ofFile (text : List Char) : Except Fault Url := do
  let style : Style := ⟨true⟩
  let file (host : Host) (text : List Char) : Url :=
    { scheme := "file"
      host := some host
      path := readPath style text
      fragment := readFragment text }
  match text with
  | a :: b :: rest =>
    if !style.isSlash a || !style.isSlash b then return file (.name "") text
    let name := rest.takeWhile fun c => !style.endsAuthority c
    let behind := rest.drop name.length
    if isDrive name then return file (.name "") rest
    let host ← if name = [] then pure (.name "") else Host.ofText name
    let first := (behind.drop 1).takeWhile fun c => !style.endsAuthority c
    return file (if host = .name "localhost" ∨ isDrive first then .name "" else host) behind
  | _ => return file (.name "") text

/-- A path that does not begin with a slash is kept as it is. -/
def ofRest (scheme : String) (text : List Char) : Url :=
  let path := match text with
    | '/' :: _ => readPath ⟨false⟩ text
    | _ => String.ofList (percentEncode isControl (text.takeWhile fun c => !Style.endsPath c))
  { scheme := scheme, path := path, fragment := readFragment text }

/-- Controls and spaces at the ends do not count, nor do tabs and line ends anywhere. -/
def cleaned (text : List Char) : List Char :=
  let isEdge (c : Char) : Bool := decide (c.toNat ≤ 32)
  let trimmed := ((text.dropWhile isEdge).reverse.dropWhile isEdge).reverse
  trimmed.filter fun c => c ≠ '\t' ∧ c ≠ '\n' ∧ c ≠ '\r'

def ofText (text : String) : Except Fault Url :=
  match splitScheme? (cleaned text.toList) with
  | none => .error .noScheme
  | some (scheme, rest) =>
    if scheme = "file" then ofFile rest
    else if (usualSocket? scheme).isSome then
      ofAuthority scheme ⟨true⟩ (rest.dropWhile (Style.isSlash ⟨true⟩))
    else match rest with
    | '/' :: '/' :: rest => ofAuthority scheme ⟨false⟩ rest
    | _ => .ok (ofRest scheme rest)

def socketText : Option Nat → String
  | some n => ":" ++ toString n
  | none => ""

/-- User, host and socket. -/
def authority (u : Url) : String := u.user ++ u.host.elim "" Host.text ++ socketText u.socket

/-- What stands before the path. Where no host can stand a path must not look like one. -/
def front (u : Url) : String :=
  u.scheme ++ ":" ++
    if u.host.isSome then "//" ++ u.authority
    else if u.path.startsWith "//" then "/."
    else ""

/-- The URL with a query. -/
def textWith (u : Url) (query : String) : String :=
  u.front ++ u.path ++ "?" ++ query ++ u.fragment.elim "" ("#" ++ ·)

end Url
end RelayStore
