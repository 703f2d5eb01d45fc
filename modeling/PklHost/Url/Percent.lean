import PklHost.Text.Quoted

/-!
# Percent-encoding

Each part of a URL has a set of ASCII characters that may not stand in it as they are. They are
written as a percent sign and two hexadecimal digits per octet, and so is every character beyond
ASCII. An escape that is already there is left alone. Decoding takes every escape back to its octet;
a percent sign without two digits after it stands for itself.
-/

namespace PklHost.Url

/-! ## Sets of characters to encode -/

def isControl (c : Char) : Bool :=
  c.toNat < 0x20 || c.toNat = 0x7f

def inFragmentSet (c : Char) : Bool :=
  isControl c || c == ' ' || c == '"' || c == '<' || c == '>' || c.toNat = 0x60

def inQuerySet (c : Char) : Bool :=
  isControl c || c == ' ' || c == '"' || c == '#' || c == '<' || c == '>'

def inSpecialQuerySet (c : Char) : Bool :=
  inQuerySet c || c == '\''

def inPathSet (c : Char) : Bool :=
  inFragmentSet c || c == '#' || c == '?' || c == '{' || c == '}'

/-- What is encoded in one segment of a file path. -/
def inSegmentSet (c : Char) : Bool :=
  inPathSet c || c == '/' || c == '%' || c == '\\'

def inUserinfoSet (c : Char) : Bool :=
  inPathSet c || c == '/' || c == ':' || c == ';' || c == '=' || c == '@' || c == '[' ||
    c == '\\' || c == ']' || c == '^' || c == '|'

/-! ## Encoding -/

/-- The escape of an octet. -/
def escape (b : UInt8) : List Char :=
  '%' :: (Text.octetHex b).toList

/-- Escapes for the octets of a character. -/
def escapeChar (c : Char) : List Char :=
  (Bytes.ofText (String.ofList [c])).flatMap escape

/-- A character, encoded if it is in the set or beyond ASCII. -/
def encodeChar (inSet : Char → Bool) (c : Char) : List Char :=
  if inSet c || 0x80 ≤ c.toNat then escapeChar c else [c]

def encodeChars (inSet : Char → Bool) (cs : List Char) : List Char :=
  cs.flatMap (encodeChar inSet)

/-- Octets, encoded if they are in the set or beyond ASCII. -/
def encodeOctets (inSet : Char → Bool) (bs : Bytes) : List Char :=
  bs.flatMap fun b =>
    let c := Char.ofNat b.toNat
    if inSet c || 0x80 ≤ b.toNat then escape b else [c]

/-! ## Decoding -/

/-- The value of a hexadecimal digit. -/
def hexValue? (b : UInt8) : Option UInt8 :=
  if 0x30 ≤ b ∧ b ≤ 0x39 then some (b - 0x30)
  else if 0x41 ≤ b ∧ b ≤ 0x46 then some (b - 0x37)
  else if 0x61 ≤ b ∧ b ≤ 0x66 then some (b - 0x57)
  else none

/-- The octets with every escape replaced by its octet. -/
def decodeOctets : Bytes → Bytes
  | 0x25 :: a :: b :: rest =>
    match hexValue? a, hexValue? b with
    | some x, some y => (x * 16 + y) :: decodeOctets rest
    | _, _ => 0x25 :: decodeOctets (a :: b :: rest)
  | b :: rest => b :: decodeOctets rest
  | [] => []

/-- The octets that a text with escapes stands for. -/
def decode (s : String) : Bytes :=
  decodeOctets (Bytes.ofText s)

end PklHost.Url
