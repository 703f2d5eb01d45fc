import PklHost.Bytes
import PklHost.Double.Basic

/-!
# MessagePack items

An item is one MessagePack value, as it stands on the wire. Integers cover the signed and the
unsigned 64-bit range at once; a string whose octets are not UTF-8 is kept apart from text, so that
equal octets have one item only. Maps keep their pairs in order and may repeat a key.
-/

namespace PklHost.MessagePack

/-- An integer that some 64-bit word can hold, signed or unsigned. -/
structure WireInt where
  val : Int
  lower : -0x8000000000000000 ≤ val
  upper : val < 0x10000000000000000
  deriving DecidableEq

namespace WireInt

def ofUInt64 (n : UInt64) : WireInt :=
  ⟨n.toNat, by omega, by have := n.toNat_lt; omega⟩

def ofInt64 (n : Int64) : WireInt :=
  ⟨n.toInt, n.le_toInt, by have := n.toInt_lt; omega⟩

/-- The integer as a signed word, if it fits. -/
def toInt64? (n : WireInt) : Option Int64 :=
  if n.val < 0x8000000000000000 then some (Int64.ofInt n.val) else none

/-- The integer as an unsigned word, unless it is negative. -/
def toUInt64? (n : WireInt) : Option UInt64 :=
  if 0 ≤ n.val then some (UInt64.ofNat n.val.toNat) else none

@[simp] theorem toInt64?_ofInt64 (n : Int64) : (ofInt64 n).toInt64? = some n := by
  have h := n.toInt_lt
  have h' : n.toInt < 0x8000000000000000 := h
  simp only [toInt64?, ofInt64, if_pos h', Int64.ofInt_toInt]

@[simp] theorem toUInt64?_ofUInt64 (n : UInt64) : (ofUInt64 n).toUInt64? = some n := by
  simp [toUInt64?, ofUInt64]

end WireInt

/-- The octets of a string that are not UTF-8. -/
structure BrokenText where
  octets : Bytes
  broken : Bytes.text? octets = none

/-- One MessagePack value. -/
inductive Item where
  | nil
  | bool (b : Bool)
  | int (n : WireInt)
  | single (x : Single)
  | double (x : Double)
  | text (s : String)
  | brokenText (t : BrokenText)
  | bin (octets : Bytes)
  | array (items : List Item)
  | map (pairs : List (Item × Item))
  | ext (kind : Int8) (octets : Bytes)

instance : Inhabited Item := ⟨.nil⟩

namespace Item

/-- The item of a string with these octets. -/
def ofStringOctets (octets : Bytes) : Item :=
  match h : Bytes.text? octets with
  | some s => .text s
  | none => .brokenText ⟨octets, h⟩

def ofInt64 (n : Int64) : Item := .int (.ofInt64 n)

def ofUInt64 (n : UInt64) : Item := .int (.ofUInt64 n)

theorem ofStringOctets_ofText (s : String) : ofStringOctets (Bytes.ofText s) = .text s := by
  unfold ofStringOctets
  split
  · next t h =>
    rw [Bytes.text?_ofText] at h
    simpa using h.symm
  · next h =>
    rw [Bytes.text?_ofText] at h
    simp at h

end Item

end PklHost.MessagePack
