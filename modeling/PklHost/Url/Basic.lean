import PklHost.Text.Quoted

/-!
# URLs

A URL in the normal form of the URL standard: its parts are already encoded, and `Url.text` joins
them. The path of a URL with an authority is empty or starts with a slash; without an authority a
path that does not start with a slash is opaque, one text without segments.
-/

namespace PklHost

namespace Url

/-- A host. -/
inductive Host where
  | domain (name : String)
  /-- An IPv4 address, as a number below 2 ^ 32. -/
  | ipv4 (address : Nat)
  /-- The eight pieces of an IPv6 address, each below 2 ^ 16. -/
  | ipv6 (pieces : List Nat)
  deriving DecidableEq, Repr

/-- What stands between the two slashes and the path. Without a host it is empty. -/
structure Authority where
  /-- Encoded, with the sign that separates it from the host. -/
  userinfo : String := ""
  host : Option Host := none
  port : Option Nat := none
  deriving DecidableEq, Repr

end Url

/-- A URL. -/
structure Url where
  scheme : String
  authority : Option Url.Authority
  path : String
  query : Option String
  fragment : Option String
  deriving DecidableEq, Repr

namespace Url

/-! ## Text -/

/-- Where the first longest run of zeros starts, and its length. -/
def longestZeroRun (pieces : List Nat) : Nat × Nat :=
  let runAt (i : Nat) : Nat := ((pieces.drop i).takeWhile (· == 0)).length
  (List.range pieces.length).foldl
    (fun best i => if best.2 < runAt i then (i, runAt i) else best) (0, 0)

/-- The text of an IPv6 address: the first longest run of at least two zeros is left out. -/
def ipv6Text (pieces : List Nat) : String :=
  let joined (ps : List Nat) : String := ":".intercalate (ps.map Text.hex)
  let (start, length) := longestZeroRun pieces
  if length < 2 then joined pieces
  else joined (pieces.take start) ++ "::" ++ joined (pieces.drop (start + length))

/-- The text of an IPv4 address: four numbers below 256. -/
def ipv4Text (address : Nat) : String :=
  ".".intercalate ([24, 16, 8, 0].map fun shift => toString (address / Nat.pow 2 shift % 256))

def Host.text : Host → String
  | .domain name => name
  | .ipv4 address => ipv4Text address
  | .ipv6 pieces => "[" ++ ipv6Text pieces ++ "]"

def Authority.text (a : Authority) : String :=
  a.userinfo ++ (a.host.map Host.text).getD "" ++
    match a.port with
    | some port => ":" ++ toString port
    | none => ""

/-- The text of a URL. A path that starts with two slashes is kept from reading as an authority. -/
def text (u : Url) : String :=
  u.scheme ++ ":" ++
    (match u.authority with
      | some a => "//" ++ a.text
      | none => if u.path.startsWith "//" then "/." else "") ++
    u.path ++
    (match u.query with
      | some q => "?" ++ q
      | none => "") ++
    (match u.fragment with
      | some f => "#" ++ f
      | none => "")

/-! ## Errors -/

/-- Why a text is no URL. -/
inductive Fault where
  | emptyHost
  | international
  | port
  | ipv4
  | ipv6
  | domainCharacter
  | relative
  deriving DecidableEq, Repr

def Fault.message : Fault → String
  | .emptyHost => "empty host"
  | .international => "invalid international domain name"
  | .port => "invalid port number"
  | .ipv4 => "invalid IPv4 address"
  | .ipv6 => "invalid IPv6 address"
  | .domainCharacter => "invalid domain character"
  | .relative => "relative URL without a base"

/-! ## Schemes -/

/-- Schemes with rules of their own. -/
inductive SchemeClass where
  | file
  /-- A scheme with an authority, and its default port. -/
  | special (defaultPort : Nat)
  | other
  deriving DecidableEq, Repr

/-- The class of a scheme. -/
def SchemeClass.of (scheme : String) : SchemeClass :=
  if scheme == "file" then .file
  else if scheme == "http" || scheme == "ws" then .special 80
  else if scheme == "https" || scheme == "wss" then .special 443
  else if scheme == "ftp" then .special 21
  else .other

def SchemeClass.isSpecial : SchemeClass → Bool
  | .other => false
  | _ => true

end Url

end PklHost
