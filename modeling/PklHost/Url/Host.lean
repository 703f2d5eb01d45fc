import PklHost.Url.Basic
import PklHost.Url.Domain
import PklHost.Url.Percent

/-!
# Hosts

A host in brackets is an IPv6 address. Elsewhere a special scheme has domain names, written in lower
case and without the characters that delimit a URL; a name that ends in a number is an IPv4 address,
its parts in decimal, octal or hexadecimal. The hosts of other schemes are opaque.
-/

namespace PklHost.Url

/-! ## IPv4 -/

/-- The value of a digit in a base up to 16. -/
def digitValue? (base : Nat) (c : Char) : Option Nat :=
  let n := c.toNat
  let v :=
    if 0x30 ≤ n ∧ n ≤ 0x39 then n - 0x30
    else if 0x41 ≤ n ∧ n ≤ 0x46 then n - 0x37
    else if 0x61 ≤ n ∧ n ≤ 0x66 then n - 0x57
    else base
  if v < base then some v else none

/-- The number that digits spell, unless one is no digit. -/
def digitsValue? (base : Nat) (cs : List Char) : Option Nat :=
  cs.foldl (fun acc c => do return (← acc) * base + (← digitValue? base c)) (some 0)

/-- One part of an IPv4 address: hexadecimal after `0x`, octal after `0`, else decimal. -/
def ipv4Part? : List Char → Option Nat
  | [] => none
  | '0' :: 'x' :: cs | '0' :: 'X' :: cs => digitsValue? 16 cs
  | '0' :: c :: cs => digitsValue? 8 (c :: cs)
  | cs => digitsValue? 10 cs

/-- The dotted parts of a name, without an empty one at its end. -/
def dottedParts (name : List Char) : List (List Char) :=
  let parts := Text.splitAll '.' name
  if parts.getLast? = some [] then parts.dropLast else parts

/-- The last part of a name is a number. -/
def endsInNumber (name : List Char) : Bool :=
  match (dottedParts name).getLast? with
  | some last => (!last.isEmpty && last.all Char.isDigit) || (ipv4Part? last).isSome
  | none => false

/-- The IPv4 address of parts: up to four numbers, of which the last fills what the others leave. -/
def ipv4Of (parts : List (List Char)) : Except Fault Nat :=
  match parts.mapM ipv4Part? with
  | none => .error .ipv4
  | some numbers =>
    match numbers.getLast? with
    | none => .error .ipv4
    | some last =>
      let front := numbers.dropLast
      if 4 < numbers.length || front.any (255 < ·) || Nat.pow 256 (4 - front.length) ≤ last then .error .ipv4
      else .ok (front.zipIdx.foldl (fun acc p => acc + p.1 * Nat.pow 256 (3 - p.2)) last)

/-! ## IPv6 -/

/-- A state of reading an IPv6 address: the pieces so far and where zeros were left out. -/
structure Ipv6Pieces where
  pieces : List Nat := []
  gap : Option Nat := none

/-- The eight pieces, at least one zero filled in at the gap. -/
def Ipv6Pieces.fill? (s : Ipv6Pieces) : Option (List Nat) :=
  match s.gap with
  | none => if s.pieces.length = 8 then some s.pieces else none
  | some gap =>
    if s.pieces.length ≤ 7 then
      some (s.pieces.take gap ++ List.replicate (8 - s.pieces.length) 0 ++ s.pieces.drop gap)
    else none

/-- One decimal part of an embedded IPv4 address: below 256, without leading zeros. -/
def decimalOctet? (cs : List Char) : Option Nat := do
  let n ← digitsValue? 10 cs
  if cs.isEmpty || n > 255 || (cs.head? = some '0' && cs.length > 1) then none else some n

/-- The two pieces of an embedded IPv4 address. -/
def embeddedIpv4? (cs : List Char) : Option (List Nat) := do
  match ← (Text.splitAll '.' cs).mapM decimalOctet? with
  | [a, b, c, d] => some [a * 256 + b, c * 256 + d]
  | _ => none

/-- Reads the parts of an address between its colons. An empty part in the middle is the gap; an
embedded IPv4 address may stand last. -/
def ipv6Parts (s : Ipv6Pieces) : List (List Char) → Option Ipv6Pieces
  | [] => some s
  | [] :: rest =>
    if s.gap.isSome || rest.isEmpty then none
    else
      let s := { s with gap := some s.pieces.length }
      if rest = [[]] then some s else ipv6Parts s rest
  | part :: rest =>
    if part.contains '.' then
      if rest.isEmpty && s.pieces.length ≤ 6 then do
        return { s with pieces := s.pieces ++ (← embeddedIpv4? part) }
      else none
    else if part.length ≤ 4 && s.pieces.length < 8 then do
      ipv6Parts { s with pieces := s.pieces ++ [← digitsValue? 16 part] } rest
    else none

/-- The pieces of an IPv6 address. -/
def ipv6Of (cs : List Char) : Except Fault (List Nat) :=
  let parts := Text.splitAll ':' cs
  let parts? :=
    match parts with
    | [] :: [] :: rest => some ([] :: rest)
    | [] :: _ => none
    | _ => some parts
  match parts?.bind (ipv6Parts {}) |>.bind Ipv6Pieces.fill? with
  | some pieces => .ok pieces
  | none => .error .ipv6

/-- The address in a host that starts with a bracket. -/
def bracketed (cs : List Char) : Except Fault Host :=
  if cs.getLast? = some ']' then .ipv6 <$> ipv6Of cs.dropLast else .error .ipv6

/-! ## Names -/

/-- Characters that no domain name may hold. -/
def isForbiddenInDomain (c : Char) : Bool :=
  c.toNat ≤ 0x20 || c.toNat = 0x7f || "%#/:<>?@[\\]^|".toList.contains c

/-- Characters that no opaque host may hold. -/
def isForbiddenInHost (c : Char) : Bool :=
  c.toNat = 0 || "\t\n\r #/:<>?@[\\]^|".toList.contains c

/-- The host of a special scheme. -/
def specialHost (cs : List Char) : Except Fault Host :=
  match cs with
  | '[' :: rest => bracketed rest
  | _ =>
    match (Bytes.text? (decode (String.ofList cs))).bind fun name => domainForm? name.toList with
    | none => .error .international
    | some name =>
      if name.any isForbiddenInDomain then .error .international
      else if name.isEmpty then .error .emptyHost
      else if endsInNumber name then .ipv4 <$> ipv4Of (dottedParts name)
      else .ok (.domain (String.ofList name))

/-- The host of another scheme; an empty one is none. -/
def opaqueHost (cs : List Char) : Except Fault (Option Host) :=
  match cs with
  | [] => .ok none
  | '[' :: rest => some <$> bracketed rest
  | _ =>
    if cs.any isForbiddenInHost then .error .domainCharacter
    else .ok (some (.domain (String.ofList (encodeChars isControl cs))))

end PklHost.Url
