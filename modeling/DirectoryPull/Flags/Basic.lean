import DirectoryPull.Text.Numeral

/-!
# Flag words

A 32-bit word whose bits have names. Four families of names exist; bits without a name are kept.
-/

namespace DirectoryPull

inductive FlagKind
  /-- Capabilities that two servers agree on. -/
  | extension
  /-- Options of a pull or a sync. -/
  | replica
  /-- How an attribute is stored and sent. -/
  | system
  /-- How an attribute is searched and filtered. -/
  | search
deriving DecidableEq

structure Flags (kind : FlagKind) where
  bits : UInt32
deriving DecidableEq

abbrev Extensions := Flags .extension
abbrev ReplicaFlags := Flags .replica
abbrev SystemFlags := Flags .system
abbrev SearchFlags := Flags .search

namespace FlagKind

/-! ## The names -/

/-- Three names share the bit of `ADDENTRYREPLY_V3`. -/
def extensionNames : List (String × UInt32) := [
  ("BASE", 0x00000001),
  ("ASYNC_REPLICATION", 0x00000002),
  ("REMOVEAPI", 0x00000004),
  ("MOVEREQ_V2", 0x00000008),
  ("GETCHG_COMPRESS", 0x00000010),
  ("DCINFO_V1", 0x00000020),
  ("RESTORE_USN_OPTIMIZATION", 0x00000040),
  ("KCC_EXECUTE", 0x00000100),
  ("ADDENTRY_V2", 0x00000200),
  ("LINKED_VALUE_REPLICATION", 0x00000400),
  ("DCINFO_V2", 0x00000800),
  ("INSTANCE_TYPE_NOT_REQ_ON_MOD", 0x00001000),
  ("CRYPTO_BIND", 0x00002000),
  ("GET_REPL_INFO", 0x00004000),
  ("STRONG_ENCRYPTION", 0x00008000),
  ("DCINFO_V01", 0x00010000),
  ("TRANSITIVE_MEMBERSHIP", 0x00020000),
  ("ADD_SID_HISTORY", 0x00040000),
  ("POST_BETA3", 0x00080000),
  ("GET_MEMBERSHIPS2", 0x00200000),
  ("GETCHGREQ_V6", 0x00400000),
  ("NONDOMAIN_NCS", 0x00800000),
  ("GETCHGREQ_V8", 0x01000000),
  ("GETCHGREPLY_V5", 0x02000000),
  ("GETCHGREPLY_V6", 0x04000000),
  ("ADDENTRYREPLY_V3", 0x08000000),
  ("GETCHGREPLY_V7", 0x08000000),
  ("VERIFY_OBJECT", 0x08000000),
  ("XPRESS_COMPRESS", 0x10000000)]

/-- Options of pulls and syncs. -/
def replicaNames : List (String × UInt32) := [
  ("ASYNC_OP", 0x00000001),
  ("WRIT_REP", 0x00000010),
  ("INIT_SYNC", 0x00000020),
  ("PER_SYNC", 0x00000040),
  ("MAIL_REP", 0x00000080),
  ("ASYNC_REP", 0x00000100),
  ("TWOWAY_SYNC", 0x00000200),
  ("CRITICAL_ONLY", 0x00000400),
  ("GET_ANC", 0x00000800),
  ("GET_NC_SIZE", 0x00001000),
  ("NONGC_RO_REP", 0x00002000),
  ("SYNC_BYNAME", 0x00004000),
  ("FULL_SYNC_NOW", 0x00008000),
  ("FULL_SYNC_IN_PROGRESS", 0x00010000),
  ("FULL_SYNC_PACKET", 0x00020000),
  ("SYNC_REQUEUE", 0x00040000),
  ("SYNC_URGENT", 0x00080000),
  ("NEVER_SYNCED", 0x00200000),
  ("SPECIAL_SECRET_PROCESSING", 0x00400000),
  ("INIT_SYNC_NOW", 0x00800000),
  ("PREEMPTED", 0x01000000),
  ("SYNC_FORCED", 0x02000000),
  ("DISABLE_AUTO_SYNC", 0x04000000),
  ("DISABLE_PERIODIC_SYNC", 0x08000000),
  ("USE_COMPRESSION", 0x10000000),
  ("NEVER_NOTIFY", 0x20000000),
  ("SYNC_PAS", 0x40000000),
  ("GET_ALL_GROUP_MEMBERSHIP", 0x80000000)]

/-- The word `systemFlags` of an attribute definition. -/
def systemNames : List (String × UInt32) := [
  ("NOT_REPLICATED", 0x00000001),
  ("REQ_PARTIAL_SET_MEMBER", 0x00000002),
  ("IS_CONSTRUCTED", 0x00000004),
  ("IS_OPERATIONAL", 0x00000008),
  ("SCHEMA_BASE_OBJECT", 0x00000010),
  ("IS_RDN", 0x00000020),
  ("DISALLOW_DELETE", 0x80000000)]

/-- The word `searchFlags` of an attribute definition. -/
def searchNames : List (String × UInt32) := [
  ("INDEXED", 0x00000001),
  ("CONTAINER_INDEXED", 0x00000002),
  ("ANR", 0x00000004),
  ("PRESERVE_ON_DELETE", 0x00000008),
  ("COPY", 0x00000010),
  ("TUPLE_INDEX", 0x00000020),
  ("SUBTREE_INDEX", 0x00000040),
  ("CONFIDENTIAL", 0x00000080),
  ("NEVER_AUDIT", 0x00000100),
  ("RODC_FILTERED", 0x00000200),
  ("EXTENDED_LINK_TRACKING", 0x00000400),
  ("BASE_ONLY", 0x00000800),
  ("PARTITION_SECRET", 0x00001000)]

/-- Names and bits, in the order in which they are written. -/
def names : FlagKind → List (String × UInt32)
  | extension => extensionNames
  | replica => replicaNames
  | system => systemNames
  | search => searchNames

def title : FlagKind → String
  | extension => "SupportedExtensions"
  | replica => "ReplicaFlags"
  | system => "SystemFlags"
  | search => "SearchFlags"

end FlagKind

namespace Flags

variable {kind : FlagKind}

/-! ## Sets of bits -/

def empty : Flags kind := ⟨0⟩

def union (a b : Flags kind) : Flags kind := ⟨a.bits ||| b.bits⟩

def inter (a b : Flags kind) : Flags kind := ⟨a.bits &&& b.bits⟩

def diff (a b : Flags kind) : Flags kind := ⟨a.bits &&& ~~~b.bits⟩

def symmDiff (a b : Flags kind) : Flags kind := ⟨a.bits ^^^ b.bits⟩

def contains (a b : Flags kind) : Bool := a.bits &&& b.bits == b.bits

def intersects (a b : Flags kind) : Bool := a.bits &&& b.bits != 0

def all (kind : FlagKind) : Flags kind := ⟨kind.names.foldl (fun bits (_, b) => bits ||| b) 0⟩

def known (a : Flags kind) : Flags kind := a.inter (all kind)

def complement (a : Flags kind) : Flags kind := known ⟨~~~a.bits⟩

/-- The union of some named bits; a word that is no name adds nothing. -/
def ofNames (kind : FlagKind) (names : List String) : Flags kind :=
  ⟨names.foldl (fun bits n => bits ||| (kind.names.lookup n).getD 0) 0⟩

end Flags

/-! ## Words with a meaning of their own -/

namespace Extensions

/-- Every capability this client speaks. -/
def offered : Extensions :=
  (Flags.all .extension).diff (Flags.ofNames .extension ["XPRESS_COMPRESS"])

/-- The full request layout is understood. -/
def requestV8 : Extensions := Flags.ofNames .extension ["GETCHGREQ_V8"]

def supportsRequestV8 (e : Extensions) : Bool := e.contains requestV8

end Extensions

namespace ReplicaFlags

/-- What every full pull starts from. -/
def fullPull : ReplicaFlags := Flags.ofNames .replica ["INIT_SYNC", "PER_SYNC", "GET_ANC", "NEVER_SYNCED"]

def writable : ReplicaFlags := Flags.ofNames .replica ["WRIT_REP"]

def withholdSecrets : ReplicaFlags := Flags.ofNames .replica ["SPECIAL_SECRET_PROCESSING"]

end ReplicaFlags

namespace SystemFlags

/-- The attribute is not replicated, or computed by the server. -/
def neverSent : SystemFlags := Flags.ofNames .system ["NOT_REPLICATED", "IS_CONSTRUCTED"]

end SystemFlags

namespace SearchFlags

/-- The attribute is withheld from read-only replicas. -/
def filtered : SearchFlags := Flags.ofNames .search ["RODC_FILTERED"]

end SearchFlags

end DirectoryPull
