/-!
# Extended operations

What a pull asks for besides the changes of a naming context.
-/

namespace DirectoryPull

inductive ExtendedOp
  /-- An ordinary pull. -/
  | none
  | requestRole
  | allocateRids
  | requestRidRole
  | requestPdc
  | abandonRole
  /-- A single object. -/
  | replicateObject
  /-- The secrets of a single object. -/
  | replicateSecret
deriving DecidableEq

namespace ExtendedOp

def code : ExtendedOp → UInt32
  | none => 0
  | requestRole => 1
  | allocateRids => 2
  | requestRidRole => 3
  | requestPdc => 4
  | abandonRole => 5
  | replicateObject => 6
  | replicateSecret => 7

def all : List ExtendedOp :=
  [none, requestRole, allocateRids, requestRidRole, requestPdc, abandonRole, replicateObject, replicateSecret]

def ofCode? (code : UInt32) : Option ExtendedOp := all.find? (·.code == code)

def name : ExtendedOp → String
  | none => "None"
  | requestRole => "FsmoRequestRole"
  | allocateRids => "FsmoRidAllocation"
  | requestRidRole => "FsmoRequestRidRole"
  | requestPdc => "FsmoRequestPdc"
  | abandonRole => "FsmoAbandonRole"
  | replicateObject => "ReplicateObject"
  | replicateSecret => "ReplicateSecret"

/-- Anything but an ordinary pull. -/
def isExtended (op : ExtendedOp) : Bool := op != none

end ExtendedOp

end DirectoryPull
