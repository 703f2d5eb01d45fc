import PklHost.MessagePack.Marker

/-!
# The extent of the first value

`extent` finds where the first MessagePack value of a buffer ends without building it. It walks
from header to header, keeping count of the values still owed; strings, binaries and extensions are
stepped over. Where the buffer ends first, it says how many octets the value needs at least. The
reserved marker is refused.
-/

namespace PklHost.MessagePack

/-- How far the first value reaches. -/
inductive Extent where
  /-- Exactly the first `size` octets. -/
  | complete (size : Nat)
  /-- At least `need` octets, more than there are. -/
  | incomplete (need : Nat)
  deriving DecidableEq, Repr

/-- A place in the walk: the octets passed and to come, and the values still owed. -/
structure Walk where
  position : Nat
  rest : Bytes
  owed : Nat
  deriving DecidableEq, Repr

/-- What one header adds: octets to step over and values owed. -/
structure Header where
  skip : Nat
  owed : Nat
  deriving DecidableEq, Repr

/-- How a step of the walk ends. -/
inductive WalkStep where
  | on (w : Walk)
  | done (e : Extent)
  | reserved
  deriving DecidableEq, Repr

/-- The octets that hold a size. -/
def SizeField.width : SizeField → Nat
  | .inMarker _ => 0
  | .octets width => width

/-- A size, if its octets are there. -/
def SizeField.peek? : SizeField → Bytes → Option Nat
  | .inMarker size, _ => some size
  | .octets width, bs => (bs.split? width).map fun p => Bytes.toNat p.1

/-- The header behind a sized marker, or the octets it lacks. -/
def sizedHeader (size : SizeField) (header : Nat → Header) (bs : Bytes) : Except Nat Header :=
  match size.peek? bs with
  | some n => .ok (header n)
  | none => .error size.width

/-- The header of a value after its marker, or the width of a size that is cut short. `none` is the
reserved marker. -/
def Marker.header : Marker → Bytes → Option (Except Nat Header)
  | .reserved, _ => none
  | .nil, _ | .bool _, _ | .small _, _ => some (.ok ⟨0, 0⟩)
  | .unsigned width, _ | .signed width, _ => some (.ok ⟨width, 0⟩)
  | .single, _ => some (.ok ⟨4, 0⟩)
  | .double, _ => some (.ok ⟨8, 0⟩)
  | .text size, bs | .bin size, bs => some (sizedHeader size (fun n => ⟨size.width + n, 0⟩) bs)
  | .ext size, bs => some (sizedHeader size (fun n => ⟨size.width + 1 + n, 0⟩) bs)
  | .array size, bs => some (sizedHeader size (fun n => ⟨size.width, n⟩) bs)
  | .map size, bs => some (sizedHeader size (fun n => ⟨size.width, 2 * n⟩) bs)

/-- One header of the walk. -/
def Walk.step (w : Walk) : WalkStep :=
  match w.owed, w.rest with
  | 0, _ => .done (.complete w.position)
  | _ + 1, [] => .done (.incomplete (w.position + 1))
  | owed + 1, b :: bs =>
    match (Marker.ofOctet b).header bs with
    | none => .reserved
    | some (.error width) => .done (.incomplete (w.position + 1 + width))
    | some (.ok header) =>
      let position := w.position + 1 + header.skip
      if Bytes.reaches header.skip bs then .on ⟨position, bs.drop header.skip, owed + header.owed⟩
      else .done (.incomplete position)

theorem Walk.rest_lt_of_step {w w' : Walk} (h : w.step = .on w') :
    w'.rest.length < w.rest.length := by
  unfold Walk.step at h
  split at h
  · simp at h
  · simp at h
  · next hw =>
    split at h
    · simp at h
    · simp at h
    · split at h
      · simp only [WalkStep.on.injEq] at h
        subst h
        simp only [hw, List.length_drop, List.length_cons]
        omega
      · simp at h

/-- The walk to its end; `none` if it meets the reserved marker. -/
def Walk.run (w : Walk) : Option Extent :=
  match _h : w.step with
  | .on w' => w'.run
  | .done e => some e
  | .reserved => none
termination_by w.rest.length
decreasing_by exact Walk.rest_lt_of_step _h

/-- The extent of the first value; `none` if it holds the reserved marker. -/
def extent (bs : Bytes) : Option Extent :=
  Walk.run ⟨0, bs, 1⟩

end PklHost.MessagePack
