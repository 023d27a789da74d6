import DirectoryPull.Guid.Reader
import DirectoryPull.Value.AttributeId

/-! # Values that break their own rules -/

namespace DirectoryPull

inductive ValueError
  | guid (problem : GuidProblem)
  /-- An attribute set that descends at an index. -/
  | unsorted (index : Nat) (previous next : AttributeId)
  | repeated (id : AttributeId)
  | setVersion (version : UInt32)
  | extendedOp (code : UInt32)
deriving DecidableEq

def ValueError.message : ValueError → String
  | guid problem => "invalid GUID: " ++ problem.message
  | unsorted i a b => s!"partial attribute set not ascending at index {i}: {a.text} then {b.text}"
  | repeated a => s!"partial attribute set contains {a.text} more than once"
  | setVersion v => s!"unsupported partial attribute set version {v}"
  | extendedOp code => s!"unknown extended operation code {code}"

/-- Reads an identifier that an operation was given as text. -/
def Guid.parse (s : String) : Except ValueError Guid := (Guid.read s).mapError .guid

end DirectoryPull
