/-!
# Punycode

A label with characters beyond ASCII is written in ASCII: its ASCII characters come first, then, for
each other character in ascending order, how far it is from the one before it. Distances are numbers in
base 36 whose digits have thresholds; a bias that follows the last distance sets the thresholds, so that
distances of the usual size are short. Reading takes the distances off again and puts each character
into its place.
-/

namespace PklHost.Url.Punycode

/-! ## Digits -/

/-- The character of a digit: letters, then figures. -/
def digitChar (d : Nat) : Char :=
  Char.ofNat (if d < 26 then 0x61 + d else 0x30 + (d - 26))

/-- The digit of a character. -/
def digit? (c : Char) : Option Nat :=
  let n := c.toNat
  if 0x61 ≤ n ∧ n ≤ 0x7a then some (n - 0x61)
  else if 0x41 ≤ n ∧ n ≤ 0x5a then some (n - 0x41)
  else if 0x30 ≤ n ∧ n ≤ 0x39 then some (n - 0x30 + 26)
  else none

/-- The threshold of the digit at a place; places count 36, 72, and so on. -/
def threshold (bias place : Nat) : Nat :=
  max 1 (min 26 (place - bias))

/-- The bias that a quotient of the last distance gives. -/
def biasOf (place distance : Nat) : Nat :=
  if h : 455 < distance then biasOf (place + 36) (distance / 35)
  else place + 36 * distance / (distance + 38)
termination_by distance
decreasing_by omega

/-- The bias after a distance, with the number of characters that are in place by then. -/
def adapt (distance count : Nat) (isFirst : Bool) : Nat :=
  let d := if isFirst then distance / 700 else distance / 2
  biasOf 0 (d + d / count)

/-! ## Writing -/

/-- The digits of a distance. -/
def distanceText (bias place distance : Nat) : List Char :=
  let t := threshold bias place
  if distance < t then [digitChar distance]
  else
    digitChar (t + (distance - t) % (36 - t)) ::
      distanceText bias (place + 36) ((distance - t) / (36 - t))
termination_by distance
decreasing_by
  have h : 1 ≤ threshold bias place := Nat.le_max_left 1 _
  have := Nat.div_le_self (distance - threshold bias place) (36 - threshold bias place)
  omega

/-- A state of writing: what is written, the distance so far, the bias, and how many characters are
done. -/
structure Writing where
  text : List Char
  distance : Nat := 0
  bias : Nat := 72
  done : Nat
  isFirst : Bool := true

/-- Passes a character of the label while the characters with code `code` are written. -/
def pass (code : Nat) (s : Writing) (c : Char) : Writing :=
  if c.toNat < code then { s with distance := s.distance + 1 }
  else if c.toNat = code then
    { text := s.text ++ distanceText s.bias 36 s.distance
      bias := adapt s.distance (s.done + 1) s.isFirst
      done := s.done + 1
      isFirst := false }
  else s

/-- Writes the characters of the codes, which ascend and are none below `next`. -/
def writeCodes (label : List Char) : (next : Nat) → List Nat → Writing → Writing
  | _, [], s => s
  | next, code :: codes, s =>
    let s := { s with distance := s.distance + (code - next) * (s.done + 1) }
    let s := label.foldl (pass code) s
    writeCodes label (code + 1) codes { s with distance := s.distance + 1 }

/-- The codes beyond ASCII in a label, ascending. -/
def codes (label : List Char) : List Nat :=
  (((label.map Char.toNat).filter fun n => 0x80 ≤ n).mergeSort fun a b => a ≤ b).eraseDups

/-- The Punycode form of a label. -/
def encode (label : List Char) : List Char :=
  let ascii := label.filter fun c => c.toNat < 0x80
  let front := if ascii.isEmpty then [] else ascii ++ ['-']
  (writeCodes label 0x80 (codes label) { text := front, done := ascii.length }).text

/-! ## Reading -/

/-- Reads a distance with the weight of its next digit; the rest is shorter. -/
def readDistance (bias : Nat) : (place weight : Nat) → (cs : List Char) →
    Option (Nat × { rest : List Char // rest.length < cs.length })
  | _, _, [] => none
  | place, weight, c :: cs =>
    match digit? c with
    | none => none
    | some d =>
      let t := threshold bias place
      if d < t then some (d * weight, ⟨cs, by simp⟩)
      else
        match readDistance bias (place + 36) (weight * (36 - t)) cs with
        | some (more, ⟨rest, h⟩) => some (d * weight + more, ⟨rest, by simp; omega⟩)
        | none => none

/-- Puts the characters of the remaining distances into a label. -/
def readCodes (label : List Char) (code position bias : Nat) (isFirst : Bool) (cs : List Char) :
    Option (List Char) :=
  match cs with
  | [] => some label
  | c :: cs =>
    match readDistance bias 36 1 (c :: cs) with
    | none => none
    | some (distance, ⟨rest, _hShorter⟩) =>
      let count := label.length + 1
      let code := code + (position + distance) / count
      let position := (position + distance) % count
      if code ≤ 0x10ffff then
        readCodes (label.take position ++ Char.ofNat code :: label.drop position) code (position + 1)
          (adapt distance count isFirst) false rest
      else none
termination_by cs.length
decreasing_by simpa using _hShorter

/-- The label of a Punycode form; the last hyphen ends the ASCII characters. -/
def decode? (cs : List Char) : Option (List Char) :=
  let tail := (cs.reverse.takeWhile (· != '-')).reverse
  let front := cs.take (cs.length - tail.length - 1)
  readCodes front 0x80 0 72 true tail

end PklHost.Url.Punycode
