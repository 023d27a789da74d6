import DirectoryPull.Client.Binding
import DirectoryPull.Flags.Text
import DirectoryPull.Value.AttributeId
import DirectoryPull.Value.ExtendedOp

/-! # What the client writes to its log -/

namespace DirectoryPull

inductive Severity
  | trace
  | debug
  | info
  | warn
deriving DecidableEq

inductive Event
  | binding (target : String) (offered : Extensions)
  /-- The server claims capabilities that it was not asked for. -/
  | unoffered (target : String) (extra : Extensions)
  | bound (target : String) (agreed : Extensions)
  | opening (binding : Binding)
  | notSent (name : String) (flags : SystemFlags)
  | filtered (name : String)
  | setBuilt (records wanted : Nat)
  | pullStarted (context : String) (level : UInt32) (flags : ReplicaFlags) (operation : ExtendedOp)
  | chunkApplied (context : String) (level objects : UInt32) (more : Bool) (cursor : Cursor)
  | pullFinished (context : String) (chunks objects : Nat)
  | syncRequested (target context : String) (source : Guid) (options : ReplicaFlags)
  | serverRemoved (server domain : String)
  | lastServerRemoved (server domain : String)
deriving DecidableEq

inductive Event.Datum
  | text (s : String)
  | count (n : Nat)
  | truth (b : Bool)
deriving DecidableEq

namespace Event

def severity : Event → Severity
  | notSent .. | filtered .. => .trace
  | binding .. | opening .. | setBuilt .. | chunkApplied .. => .debug
  | bound .. | pullStarted .. | pullFinished .. | syncRequested .. | serverRemoved .. => .info
  | unoffered .. | lastServerRemoved .. => .warn

def message : Event → String
  | binding .. => "binding"
  | unoffered .. => "server reported capabilities that were never offered"
  | bound .. => "bind complete"
  | opening .. => "opening DRS connection"
  | notSent .. => "not sent by servers"
  | filtered .. => "filtered from read-only replicas"
  | setBuilt .. => "built partial attribute set"
  | pullStarted .. => "starting replication"
  | chunkApplied .. => "applied chunk"
  | pullFinished .. => "replication complete"
  | syncRequested .. => "replica sync requested"
  | serverRemoved .. => "server removed"
  | lastServerRemoved .. => "removed the last DC of the domain"

/-- Named values, in the order in which they are logged. -/
def data : Event → List (String × Datum)
  | binding target offered => [("target_server", .text target), ("offered", .text offered.titled)]
  | unoffered target extra => [("target_server", .text target), ("unexpected", .text extra.titled)]
  | bound target agreed =>
    [("target_server", .text target), ("negotiated", .text (Numeral.word agreed.bits)),
      ("request_v8", .truth (Extensions.supportsRequestV8 agreed))]
  | opening b => [("binding", .text b.text)]
  | notSent name flags => [("attribute", .text name), ("system_flags", .text flags.titled)]
  | filtered name => [("attribute", .text name)]
  | setBuilt records wanted => [("schema_entries", .count records), ("requested", .count wanted)]
  | pullStarted context level flags operation =>
    [("naming_context", .text context), ("req_level", .count level.toNat),
      ("replica_flags", .text (Numeral.word flags.bits)), ("extended_op", .text operation.name)]
  | chunkApplied context level objects more cursor =>
    [("naming_context", .text context), ("level", .count level.toNat), ("objects", .count objects.toNat),
      ("more_data", .truth more), ("highwatermark", .text cursor.text)]
  | pullFinished context chunks objects =>
    [("naming_context", .text context), ("chunks", .count chunks), ("objects", .count objects)]
  | syncRequested target context source options =>
    [("target_server", .text target), ("naming_context", .text context), ("source_dsa", .text source.text),
      ("options", .text (Numeral.word options.bits))]
  | serverRemoved server domain | lastServerRemoved server domain =>
    [("server", .text server), ("domain", .text domain)]

end Event

end DirectoryPull
