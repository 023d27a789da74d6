import DirectoryPull.Client.Peers

/-!
# Stores

A store keeps what it needs of every chunk. It refuses a chunk whose list is not as long as its count.
-/

namespace DirectoryPull

structure StoredChunk where
  level : UInt32
  requestLevel : UInt32
  schema : Bool
  requestCursor : Cursor
  newCursor : Cursor
  /-- Names of the objects, in the order of the list. -/
  dns : List String
deriving DecidableEq

def Delivery.stored (d : Delivery) : StoredChunk :=
  ⟨d.level, d.request.level, d.schema, d.request.terms.cursor, d.chunk.newCursor, d.chunk.dns⟩

structure ChunkStore where
  chunks : List StoredChunk
deriving DecidableEq

namespace ChunkStore

def empty : ChunkStore := ⟨[]⟩

/-- The names of all objects, in the order in which they came. -/
def dns (s : ChunkStore) : List String := s.chunks.flatMap (·.dns)

def apply : StoreAccess ChunkStore := fun d s =>
  let listed := d.chunk.dns.length
  if listed = d.chunk.count.toNat then .ok () ⟨s.chunks ++ [d.stored]⟩
  else .error (.rejected s!"object list holds {listed} objects, count says {d.chunk.count}") s

end ChunkStore

/-! ## Stores that fail once -/

/-- A store that fails at one of its calls, counted from zero, and stores what the others bring. -/
structure FailingStore where
  store : ChunkStore
  calls : Nat
  failure : Option (Nat × ApplyError)
deriving DecidableEq

namespace FailingStore

def reliable : FailingStore := ⟨.empty, 0, none⟩

def failingAt (call : Nat) (e : ApplyError) : FailingStore := ⟨.empty, 0, some (call, e)⟩

/-- The failure due at the present call. -/
def due? (s : FailingStore) : Option ApplyError :=
  s.failure.bind fun (call, e) => if call = s.calls then some e else none

def apply : StoreAccess FailingStore := fun d s =>
  let next := { s with calls := s.calls + 1 }
  match s.due? with
  | some e => .error e next
  | none => (ChunkStore.apply d).on (·.store) (fun s store => { s with store := store }) next

end FailingStore

end DirectoryPull
