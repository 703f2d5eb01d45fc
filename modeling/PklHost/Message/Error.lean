import PklHost.IoError
import PklHost.MessagePack.Notation
import PklHost.MessagePack.Reader
import PklHost.Message.Kind

/-!
# Faults of messages

A fault either ends the stream, because what follows can no longer be read, or concerns one record
and leaves the stream usable. `FrameError.isFatal` tells which.
-/

namespace PklHost.Message

open MessagePack (Item ReadError WireInt)

/-- A record with named fields. -/
inductive RecordName where
  | message (kind : Kind)
  | readerSpec
  | moduleReaderSpec
  | pathElement
  | dependency
  | checksums
  deriving DecidableEq, Repr

def RecordName.text : RecordName → String
  | .message kind => kind.name
  | .readerSpec => "ReaderSpec"
  | .moduleReaderSpec => "ModuleReaderSpec"
  | .pathElement => "PathElement"
  | .dependency => "ProjectOrDependency"
  | .checksums => "Checksums"

/-- What a field should have held. -/
inductive Expectation where
  | int64
  | bool
  | string
  | utf8
  | binary
  | array
  | map
  | stringKeys
  | dependencyType
  deriving DecidableEq, Repr

def Expectation.text : Expectation → String
  | .int64 => "int64"
  | .bool => "bool"
  | .string => "string"
  | .utf8 => "UTF-8 string"
  | .binary => "binary"
  | .array => "array"
  | .map => "map"
  | .stringKeys => "string keys"
  | .dependencyType => "\"local\" or \"remote\""

/-- Why octets are not MessagePack. -/
inductive MsgpackFault where
  | reservedMarker
  | unreadable (cause : ReadError)
  /-- Any other fault, in words. -/
  | other (text : String)

def MsgpackFault.text : MsgpackFault → String
  | .reservedMarker => "reserved marker 0xc1"
  | .unreadable cause => cause.message
  | .other text => text

/-- Why an item is no record. -/
inductive RecordFault where
  | notPair (got : Item)
  | negativeKind (n : WireInt)
  | kindNotInteger (got : Item)
  | fieldsNotMap (got : Item)
  | notMap (record : RecordName)
  /-- Any other fault, in words. -/
  | other (text : String)

def RecordFault.text : RecordFault → String
  | .notPair got => got.plain
  | .negativeKind n => "negative kind " ++ n.typed
  | .kindNotInteger got => "kind is not an integer: Some(" ++ got.typed ++ ")"
  | .fieldsNotMap got => "fields are not a map: Some(" ++ got.typed ++ ")"
  | .notMap record => record.text ++ " is not a map"
  | .other text => text

/-- A fault of a message or of the stream of messages. -/
inductive FrameError where
  | io (cause : IoError)
  | tooLarge (size limit : Nat)
  | connectionClosed
  | msgpack (fault : MsgpackFault)
  | unknownKind (code : UInt64)
  | missingField (record : RecordName) (field : String)
  | invalidField (record : RecordName) (field : String) (expected : Expectation)
  | notARecord (fault : RecordFault)

namespace FrameError

/-- The stream cannot be read past the fault. -/
def isFatal : FrameError → Bool
  | .io _ | .tooLarge .. | .connectionClosed | .msgpack _ => true
  | .unknownKind _ | .missingField .. | .invalidField .. | .notARecord _ => false

def message : FrameError → String
  | .io cause => "frame I/O error: " ++ cause.text
  | .tooLarge size limit =>
    "message too large (" ++ toString size ++ " bytes, max " ++ toString limit ++ ")"
  | .connectionClosed => "connection closed (incomplete message)"
  | .msgpack fault => "invalid msgpack: " ++ fault.text
  | .unknownKind code => "unknown message kind: 0x" ++ Text.hex code.toNat
  | .missingField record field =>
    record.text ++ ": missing field " ++ Text.quoted field
  | .invalidField record field expected =>
    record.text ++ ": invalid field " ++ Text.quoted field ++ ": expected " ++ expected.text
  | .notARecord fault => "not a message record: " ++ fault.text

end FrameError

end PklHost.Message
