import PklHost.Message.Incoming
import PklHost.MessagePack.Extent

/-!
# The stream of messages

`firstItem` takes one item off a buffer once all of it is there, and `StreamDecoder` turns octets
that arrive in pieces into messages. The buffer is walked to find the end of its first item before
anything is built, so the size limit holds also for an item that never arrives. After a walk that
found octets lacking, the decoder waits for that many before it walks again. A record that is no
message is an item of the stream like any other; a fatal fault changes nothing and is met again.
-/

namespace PklHost.Message

open MessagePack (Extent Item extent depthLimit)

/-- What a buffer holds at its front. -/
inductive FirstItem where
  /-- A whole item, and the octets after it. -/
  | whole (item : Item) (rest : Bytes)
  /-- The beginning of an item of at least `need` octets. -/
  | needs (need : Nat)

/-- The first item of a buffer, none larger than the limit. -/
def firstItem (limit : Nat) (buffer : Bytes) : Except FrameError FirstItem :=
  match extent buffer with
  | none => .error (.msgpack .reservedMarker)
  | some (.incomplete need) =>
    if need ≤ limit then .ok (.needs need) else .error (.tooLarge need limit)
  | some (.complete size) =>
    if limit < size then .error (.tooLarge size limit)
    else
      match Item.read depthLimit (buffer.take size) with
      | .ok (item, _) => .ok (.whole item (buffer.drop size))
      | .error e => .error (.msgpack (.unreadable e))

/-- Takes the first item off a buffer; `none` if not all of it is there. -/
def takeItem (limit : Nat) : ExceptT FrameError (StateM Bytes) (Option Item) := do
  match firstItem limit (← get) with
  | .ok (.whole item rest) =>
    set rest
    return some item
  | .ok (.needs _) => return none
  | .error e => throw e

/-- The first item of a buffer that must hold all of it: a buffer that ends inside it, or is empty, is
that of a connection which was closed. -/
def wholeItem (limit : Nat) (buffer : Bytes) : Except FrameError Item :=
  match firstItem limit buffer with
  | .ok (.whole item _) => .ok item
  | .ok (.needs _) => .error .connectionClosed
  | .error e => .error e

/-- The largest message that is buffered unless another limit is set: 64 MiB. -/
def defaultLimit : Nat := 64 * 1024 * 1024

/-- A decoder: its limit, the octets it has not used, and how many it waits for. -/
structure StreamDecoder where
  limit : Nat := defaultLimit
  needed : Nat := 0
  buffer : Bytes := []

/-- An item of the stream: a message, or the fault of a record that is none. -/
abbrev StreamItem := Except FrameError Incoming

/-- What one attempt to decode gives. -/
inductive Decoded where
  | item (x : StreamItem)
  | waiting
  | failed (e : FrameError)

namespace StreamDecoder

/-- Appends octets that arrived. -/
def feed (octets : Bytes) (d : StreamDecoder) : StreamDecoder :=
  { d with buffer := d.buffer ++ octets }

/-- One attempt to decode. -/
def decode (d : StreamDecoder) : Decoded × StreamDecoder :=
  if d.buffer.isEmpty || d.buffer.length < d.needed then (.waiting, d)
  else
    match firstItem d.limit d.buffer with
    | .error e => (.failed e, d)
    | .ok (.needs need) => (.waiting, { d with needed := need })
    | .ok (.whole item rest) => (.item (Incoming.ofItem item), { d with needed := 0, buffer := rest })

/-- One attempt to decode after the last octet: octets that are left over are a broken message. -/
def decodeEnd (d : StreamDecoder) : Decoded × StreamDecoder :=
  match d.decode with
  | (.waiting, d) => if d.buffer.isEmpty then (.waiting, d) else (.failed .connectionClosed, d)
  | r => r

/-! ## All items at once -/

/-- The items of a run of attempts, the fault that ended it if one did, and the decoder left. -/
structure Drained where
  items : List StreamItem
  fault : Option FrameError
  decoder : StreamDecoder

/-- Attempts that give at most `count` items. -/
def drainUpTo (attempt : StreamDecoder → Decoded × StreamDecoder) :
    (count : Nat) → StreamDecoder → Drained
  | 0, d => ⟨[], none, d⟩
  | count + 1, d =>
    match attempt d with
    | (.waiting, d) => ⟨[], none, d⟩
    | (.failed e, d) => ⟨[], some e, d⟩
    | (.item x, d) =>
      let r := drainUpTo attempt count d
      ⟨x :: r.items, r.fault, r.decoder⟩

/-- Attempts until one gives no item. Each item uses at least one octet, so there are no more items
than octets. -/
def drain (d : StreamDecoder) : Drained :=
  drainUpTo decode (d.buffer.length + 1) d

/-- Attempts after the last octet, until one gives no item. -/
def drainEnd (d : StreamDecoder) : Drained :=
  drainUpTo decodeEnd (d.buffer.length + 1) d

end StreamDecoder

end PklHost.Message
