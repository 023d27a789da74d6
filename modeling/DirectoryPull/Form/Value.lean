import DirectoryPull.Flags.Text
import DirectoryPull.Json.Record
import DirectoryPull.Value.AttributeSet
import DirectoryPull.Value.Cursor
import DirectoryPull.Value.ExtendedOp

/-! # Values as JSON -/

namespace DirectoryPull

open Json

def Guid.codec : Codec Guid :=
  .spelled "a formatted UUID string" Guid.text fun s =>
    (Guid.read s).mapError fun p => "UUID parsing failed: " ++ p.message

def Flags.codec (kind : FlagKind) : Codec (Flags kind) :=
  .spelled "a string value of `|` separated flags" Flags.text fun s => (Flags.read kind s).mapError (·.message)

def AttributeId.codec : Codec AttributeId := Codec.u32.convert AttributeId.value AttributeId.mk

def ExtendedOp.codec : Codec ExtendedOp :=
  Codec.u32.refine ExtendedOp.code fun code =>
    match ExtendedOp.ofCode? code with
    | some op => .ok op
    | .none => .error (ValueError.extendedOp code).message

def Cursor.codec : Codec Cursor :=
  .record "HighWatermark"
    (.required "tmp_highest_usn" .u64 <| .required "reserved_usn" .u64 <| .required "highest_usn" .u64 .done)
    (fun c => (c.current, c.reserved, c.completed, ()))
    (fun (current, reserved, completed, _) => ⟨current, reserved, completed⟩)

/-- A version and ids in any order, before they are checked. -/
def AttributeSet.rawCodec : Codec (UInt32 × List AttributeId) :=
  .record "RawPartialAttributeSet"
    (.required "version" .u32 <| .required "attids" AttributeId.codec.list .done)
    (fun (version, ids) => (version, ids, ()))
    (fun (version, ids, _) => (version, ids))

def AttributeSet.codec : Codec AttributeSet :=
  AttributeSet.rawCodec.refine (fun s => (AttributeSet.version, s.ids)) fun (version, ids) =>
    (AttributeSet.ofVersioned version ids).mapError (·.message)

end DirectoryPull
