import PklHost.Text.Printable
import PklHost.Text.Utf8

/-!
# Quoted text

Diagnostics show a text between double quotes, with the quote, the backslash and everything that
would not be seen as itself escaped. A file path is shown in the same way, with two differences: an
apostrophe is escaped too, and octets that are not UTF-8 appear as hexadecimal octets.
-/

namespace PklHost.Text

/-- Lower-case hexadecimal digits, no leading zeros. -/
def hex (n : Nat) : String :=
  String.ofList (Nat.toDigits 16 n)

/-- Two upper-case hexadecimal digits. -/
def octetHex (b : UInt8) : String :=
  String.ofList ((Nat.toDigits 16 (b.toNat / 16) ++ Nat.toDigits 16 (b.toNat % 16)).map Char.toUpper)

/-- A character by its code point. -/
def codePointEscape (c : Char) : String :=
  "\\u\x7b" ++ hex c.toNat ++ "\x7d"

/-- One character inside quotes. -/
def escapeChar (apostrophe : Bool) (c : Char) : String :=
  if c = '"' then "\\\""
  else if c = '\\' then "\\\\"
  else if c = '\n' then "\\n"
  else if c = '\r' then "\\r"
  else if c = '\t' then "\\t"
  else if c = '\x00' then "\\0"
  else if c = '\'' then if apostrophe then "\\'" else "'"
  else if isExtender c || !isPrintable c then codePointEscape c
  else String.ofList [c]

/-- A text between double quotes. -/
def quoted (s : String) : String :=
  "\"" ++ String.join (s.toList.map (escapeChar false)) ++ "\""

/-- A file path between double quotes. -/
def quotedPath (path : Bytes) : String :=
  let piece : Utf8.Piece → String
    | .char c _ => escapeChar true c
    | .broken octets _ => String.join (octets.map fun b => "\\x" ++ octetHex b)
  "\"" ++ String.join ((Utf8.pieces path).map piece) ++ "\""

/-- Texts separated by a comma and a blank. -/
def commaSeparated (items : List String) : String :=
  ", ".intercalate items

end PklHost.Text
