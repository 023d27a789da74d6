import DirectoryPull.Message.Request

/-! # Options of a pull -/

namespace DirectoryPull

structure PullOptions where
  /-- The schema naming context is pulled. -/
  schema : Bool
  /-- The destination is a read-only replica. -/
  readOnly : Bool
  operation : ExtendedOp
  /-- Sent as they are in place of the computed ones. -/
  flags : Option ReplicaFlags
deriving DecidableEq

namespace PullOptions

/-- A full pull for a writable replica. -/
def default : PullOptions := ⟨false, false, .none, none⟩

/-- The flags that go out with the request. -/
def sentFlags (o : PullOptions) : ReplicaFlags :=
  match o.flags with
  | some flags => flags
  | none =>
    if o.operation = .replicateSecret then .empty
    else ReplicaFlags.fullPull.union (if o.readOnly then ReplicaFlags.withholdSecrets else ReplicaFlags.writable)

/-- The request carries an attribute set where the layout has room for one. -/
def isFiltered (o : PullOptions) : Bool := o.readOnly && !o.schema

end PullOptions

end DirectoryPull
