import DirectoryPull.Message.Request

/-!
# Pull replies

One page of changes. The objects come as a chain, each with a link to the next.
-/

namespace DirectoryPull

structure ReplicaAttribute where
  id : AttributeId
  values : List (List UInt8)
deriving DecidableEq

structure ReplicaObject where
  name : ObjectName
  flags : UInt32
  attributes : List ReplicaAttribute
deriving DecidableEq

/-- A link of the chain; the links after it follow in the list. -/
structure ObjectNode where
  object : ReplicaObject
  /-- The object is the root of the naming context. -/
  isRoot : Bool
  parent : Option Guid
deriving DecidableEq

structure Chunk where
  sourceServer : Guid
  sourceHistory : Guid
  context : ObjectName
  /-- The cursor of the request. -/
  oldCursor : Cursor
  /-- The cursor to send next. -/
  newCursor : Cursor
  /-- How many objects the server claims to have sent. -/
  count : UInt32
  chain : List ObjectNode
  more : Bool
deriving DecidableEq

structure PullReply where
  level : UInt32
  chunk : Chunk
deriving DecidableEq

/-! ## Chains -/

def linkFront (object : ReplicaObject) (chain : List ObjectNode) : List ObjectNode := ⟨object, false, none⟩ :: chain

/-- Links nodes from the last to the first, so that no step waits for another. -/
def linkAll (nodes : List ObjectNode) : List ObjectNode := nodes.reverse.foldl (fun next node => node :: next) []

/-- Builds a chain anew. What follows its head is linked first. -/
def relink : List ObjectNode → List ObjectNode
  | [] => []
  | head :: rest => head :: linkAll rest

namespace Chunk

/-- The count of a list, as far as a word holds it. -/
def countOf (n : Nat) : UInt32 := UInt32.ofNat (min n (UInt32.size - 1))

def ofObjects (context : ObjectName) (oldCursor newCursor : Cursor) (objects : List ReplicaObject) (more : Bool) :
    Chunk where
  sourceServer := .nil
  sourceHistory := .nil
  context := context
  oldCursor := oldCursor
  newCursor := newCursor
  count := countOf objects.length
  chain := objects.foldr linkFront []
  more := more

/-- Objects are claimed, but there is no chain. -/
def isMissingObjects (c : Chunk) : Bool := c.count != 0 && c.chain.isEmpty

def objects (c : Chunk) : List ReplicaObject := c.chain.map (·.object)

def dns (c : Chunk) : List String := c.objects.map (·.name.dn)

def copy (c : Chunk) : Chunk := { c with chain := relink c.chain }

end Chunk

end DirectoryPull
