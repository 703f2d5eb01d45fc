import PklHost.Text.Composition
import PklHost.Text.Direction
import PklHost.Text.Joining
import PklHost.Url.DomainMap
import PklHost.Url.Punycode

/-!
# Domain names beyond ASCII

A domain name is a sequence of labels. Its characters become plain ones, and letters are joined with
their accents; ideographic full stops part labels as full stops do. A label beyond ASCII is then written
as `xn--` and its Punycode form; a label that is written so already must be the form of some label beyond
ASCII that has nothing left to become. No label starts with a mark, joiners stand only where letters
join, and in a name with letters from right to left every label keeps to one direction.
-/

namespace PklHost.Url

/-- A label as it is written and as it reads. -/
structure Label where
  written : List Char
  shown : List Char

/-- The joiner. -/
def zeroWidthJoiner : Char := '\u200D'

/-- The non-joiner. -/
def zeroWidthNonJoiner : Char := '\u200C'

/-- Whether the joiners among the characters may stand where they do; `before` are the characters in
front of them, the last one first. After a vowel killer both may stand, and the non-joiner between two
letters that would join. -/
def joinersFit (before : List Char) : List Char → Bool
  | [] => true
  | c :: cs =>
    let fits :=
      if c = zeroWidthJoiner || c = zeroWidthNonJoiner then
        match before with
        | [] => false
        | last :: _ =>
          Text.combiningClass last = 9 ||
            (c = zeroWidthNonJoiner && Text.firstLetter Text.joinsNext before &&
              Text.firstLetter Text.joinsPrevious cs)
      else true
    fits && joinersFit (c :: before) cs

/-- Whether a label beyond ASCII may stand in a name, its directions aside. A label of more than a
thousand characters may not. -/
def isSound (label : List Char) : Bool :=
  !(label.head?.any Text.isMark) && joinersFit [] label && label.length ≤ 1000

/-- Whether a label has nothing left to become. -/
def isPlain (label : List Char) : Bool :=
  mappedText? label = some label && Text.composedForm label = label

/-- An ASCII character. -/
def isAscii (c : Char) : Bool := c.toNat < 0x80

/-- Reads a label of a name whose characters are plain already. -/
def label? (label : List Char) : Option Label :=
  match label with
  | 'x' :: 'n' :: '-' :: '-' :: form =>
    if form.all isAscii then
      match Punycode.decode? form with
      | some shown =>
        if !shown.all isAscii && isPlain shown && isSound shown && Punycode.encode shown = form then
          some ⟨label, shown⟩
        else none
      | none => none
    else none
  | _ =>
    if label.all isAscii then some ⟨label, label⟩
    else if isSound label then some ⟨'x' :: 'n' :: '-' :: '-' :: Punycode.encode label, label⟩
    else none

/-- Labels that may stand side by side: if one has letters from right to left, each keeps to one
direction. -/
def directionsFit (labels : List Label) : Bool :=
  !(labels.any fun l => l.shown.any Text.needsDirection) ||
    labels.all fun l => Text.keepsDirection l.shown

/-- The ASCII form of a domain name; none if it is no domain name. -/
def domainForm? (name : List Char) : Option (List Char) := do
  let plain := Text.composedForm (← mappedText? name)
  let labels ← (Text.splitAll '.' plain).mapM label?
  if directionsFit labels then some (['.'].intercalate (labels.map Label.written)) else none

/-- A label beyond ASCII has one written form, and nothing beyond ASCII may follow `xn--`. -/
example : (label? "bücher".toList).map Label.written = some "xn--bcher-kva".toList ∧
    (label? "xn--bücher".toList).isNone = true ∧ (label? "\u0301a".toList).isNone = true := by
  decide +kernel

/-- One label with letters from right to left binds the others: none may start with a digit. -/
example : directionsFit [⟨[], "1".toList⟩, ⟨[], "א".toList⟩] = false ∧
    directionsFit [⟨[], "1".toList⟩, ⟨[], "a".toList⟩] = true := by decide +kernel

end PklHost.Url
