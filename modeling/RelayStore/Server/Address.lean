import RelayStore.Url

/-! Addresses of servers. -/
namespace RelayStore.Server

/-- Why a text is not an address that requests can be sent to. -/
inductive AddressFault where
  | url (f : Url.Fault)
  | badCharacter
  | badAuthority
  | noAuthority
  | longScheme
  | longText
  deriving DecidableEq, Repr

def AddressFault.message : AddressFault → String
  | .url f => f.message
  | .badCharacter => "invalid uri character"
  | .badAuthority => "invalid authority"
  | .noAuthority => "invalid format"
  | .longScheme => "scheme too long"
  | .longText => "uri too long"

structure Address where
  scheme : String
  host : Url.Host
  socket : Nat
  path : String
  deriving DecidableEq, Repr

namespace Address

/-- The characters that an authority may have. -/
def isPlain (c : Char) : Bool := c.isAlphanum || "!$&'()*+,-.:;=@[]_~".toList.contains c

/-- What has been seen of an authority. Behind a user and behind brackets the colons and percent
signs are counted anew. -/
structure Scan where
  colons : Nat := 0
  percent : Bool := false
  opened : Bool := false
  closed : Bool := false
  deriving DecidableEq, Repr

def scan (s : Scan) (c : Char) : Except AddressFault Scan :=
  if c = ':' then
    if 8 ≤ s.colons then .error .badAuthority else .ok { s with colons := s.colons + 1 }
  else if c = '[' then
    if s.percent || s.opened then .error .badAuthority else .ok { s with opened := true }
  else if c = ']' then
    if !s.opened || s.closed then .error .badAuthority
    else .ok { s with closed := true, colons := 0, percent := false }
  else if c = '@' then .ok { s with colons := 0, percent := false }
  else if c = '%' then .ok { s with percent := true }
  else if isPlain c then .ok s
  else .error .badCharacter

/-- An authority has a host with at most one colon behind it, and no percent sign there. -/
def checkAuthority (text : List Char) : Except AddressFault Unit := do
  let s ← text.foldlM scan {}
  if s.opened ≠ s.closed ∨ 1 < s.colons ∨ s.percent ∨ text.getLast? = some '@' then
    .error .badAuthority

def longestScheme : Nat := 64
def longestText : Nat := 65534

/-- The address for requests with a query. -/
def ofUrl (u : Url) (query : String) : Except AddressFault Address := do
  let text := u.textWith query
  if longestText < text.utf8ByteSize then .error .longText
  match u.host with
  | none =>
    checkAuthority (text.toList.takeWhile fun c => c ≠ '/' ∧ c ≠ '?' ∧ c ≠ '#')
    .error .noAuthority
  | some host =>
    if longestScheme < u.scheme.length then .error .longScheme
    checkAuthority u.authority.toList
    if u.authority = "" then .error .noAuthority
    return ⟨u.scheme, host, u.socket.getD ((Url.usualSocket? u.scheme).getD 80), u.path⟩

def ofText (text query : String) : Except AddressFault Address :=
  match Url.ofText text with
  | .error f => .error (.url f)
  | .ok u => ofUrl u query

end Address
end RelayStore.Server
