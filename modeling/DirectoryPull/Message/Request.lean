import DirectoryPull.Flags.Basic
import DirectoryPull.Value.AttributeSet
import DirectoryPull.Value.Cursor
import DirectoryPull.Value.ExtendedOp

/-!
# Pull requests

A request has two layouts. The full one carries attribute sets; the reduced one, for servers that did not
agree to the full one, is the same request without them.
-/

namespace DirectoryPull

/-- A directory object, named by its identifier, its distinguished name or both. -/
structure ObjectName where
  guid : Guid
  dn : String
deriving DecidableEq

def ObjectName.ofDn (dn : String) : ObjectName := ⟨.nil, dn⟩

/-- What has been seen of one originating replica. -/
structure SeenChanges where
  source : Guid
  highest : UInt64
deriving DecidableEq

/-- The start of the object identifiers of all attribute ids with the same high half. -/
structure OidPrefix where
  idHigh : UInt32
  oid : List UInt8
deriving DecidableEq

/-- What both layouts carry. -/
structure PullTerms where
  destination : Guid
  source : Guid
  context : ObjectName
  cursor : Cursor
  seen : Option (List SeenChanges)
  flags : ReplicaFlags
  maxObjects : UInt32
  maxBytes : UInt32
  operation : ExtendedOp
  operationInfo : UInt64
deriving DecidableEq

/-- What only the full layout carries. -/
structure FilterTerms where
  wanted : Option AttributeSet
  wantedToo : Option AttributeSet
  prefixes : List OidPrefix
deriving DecidableEq

inductive PullRequest
  | reduced (terms : PullTerms)
  | full (terms : PullTerms) (filter : FilterTerms)
deriving DecidableEq

def defaultMaxObjects : UInt32 := 402

def defaultMaxBytes : UInt32 := 402116

/-- An ordinary request from the zero cursor. -/
def PullTerms.start (context : ObjectName) (source destination : Guid) : PullTerms where
  destination := destination
  source := source
  context := context
  cursor := .zero
  seen := none
  flags := .empty
  maxObjects := defaultMaxObjects
  maxBytes := defaultMaxBytes
  operation := .none
  operationInfo := 0

def FilterTerms.none : FilterTerms := ⟨.none, .none, []⟩

namespace PullRequest

def level : PullRequest → UInt32
  | reduced _ => 5
  | full _ _ => 8

def terms : PullRequest → PullTerms
  | reduced t => t
  | full t _ => t

/-- The attribute set asked for; the reduced layout has none. -/
def wanted : PullRequest → Option AttributeSet
  | reduced _ => .none
  | full _ f => f.wanted

def withCursor (c : Cursor) : PullRequest → PullRequest
  | reduced t => reduced { t with cursor := c }
  | full t f => full { t with cursor := c } f

def reduce (r : PullRequest) : PullRequest := reduced r.terms

end PullRequest

end DirectoryPull
