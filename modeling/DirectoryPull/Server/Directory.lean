import DirectoryPull.Server.Basic
import DirectoryPull.Server.Table

/-!
# A directory server

Objects lie in naming contexts in the order of their update numbers. A pull gets those past its cursor, a page
at a time. Misbehaviour can be arranged for single calls.
-/

namespace DirectoryPull

structure NumberedObject where
  usn : UInt64
  object : ReplicaObject
deriving DecidableEq

inductive PullFault
  | error (e : TransportError)
  /-- Objects are claimed, but none are sent. -/
  | dropObjects
  /-- The new cursor is zero. -/
  | rewindCursor
deriving DecidableEq

structure DirectoryServer where
  extensions : Extensions
  contexts : Table String (List NumberedObject)
  /-- The number of the next update. -/
  nextUsn : UInt64
  /-- The servers of each domain. -/
  controllers : Table String (List String)
  /-- By the number of the pull, counted from zero. -/
  faults : Table Nat PullFault
  /-- Each fails one bind. -/
  bindErrors : List TransportError
  binds : List Extensions
  pulls : List PullRequest
  syncs : List SyncRequest
  removals : List RemovalRequest

namespace DirectoryServer

def badContext : UInt32 := 0x20f8

def unknownInterface : UInt32 := 0x6d9

def noSuchServer : UInt32 := 0x20e3

def invalidHandle : UInt32 := 6

def handle : Handle := ⟨0, .fill 0x5d⟩

/-- The identity of the server's history. -/
def history : Guid := .fill 0xa1

/-- The identity of the server itself. -/
def identity : Guid := .fill 0xd5

def ofExtensions (e : Extensions) : DirectoryServer := ⟨e, .empty, 1, .empty, .empty, [], [], [], [], []⟩

/-- All that clients offer is understood. -/
def full : DirectoryServer := ofExtensions .offered

/-- Only the reduced request is understood. -/
def reducedOnly : DirectoryServer := ofExtensions (Extensions.offered.diff Extensions.requestV8)

/-! ## Contents -/

def objectsOf (s : DirectoryServer) (context : String) : List NumberedObject := (s.contexts.get? context).getD []

/-- Registers a naming context; one that exists is left alone. -/
def addContext (s : DirectoryServer) (context : String) : DirectoryServer :=
  if s.contexts.contains context then s else { s with contexts := s.contexts.insert context [] }

/-- The attribute that every object carries: its own name. -/
def nameAttribute : AttributeId := ⟨0x90001⟩

def newObject (name : ObjectName) : ReplicaObject := ⟨name, 0, [⟨nameAttribute, [name.dn.toUTF8.toList]⟩]⟩

/-- Objects with successive update numbers. -/
def numbered (first : UInt64) (names : List ObjectName) : List NumberedObject :=
  names.mapIdx fun i name => ⟨first + UInt64.ofNat i, newObject name⟩

/-- Stores objects in a naming context, which is registered where it is new. -/
def addObjects (s : DirectoryServer) (context : String) (names : List ObjectName) : DirectoryServer :=
  { s with
    contexts := s.contexts.insert context (s.objectsOf context ++ numbered s.nextUsn names)
    nextUsn := s.nextUsn + UInt64.ofNat names.length }

/-- Stores an object under an identifier that is drawn for it. -/
def addObject (s : DirectoryServer) (context dn : String) (guid : Guid := .nil) : DirectoryServer :=
  s.addObjects context [⟨guid, dn⟩]

/-- The name of an object that is only there to be counted. -/
def numberedDn (context : String) (i : Nat) : String := s!"CN=obj{i},{context}"

/-- Registers a naming context and stores so many objects in it, each under its own identifier. -/
def populate (s : DirectoryServer) (context : String) (count : Nat) (guids : Nat → Guid := fun _ => .nil) :
    DirectoryServer :=
  s.addObjects context ((List.range count).map fun i => ⟨guids i, numberedDn context i⟩)

/-- The number of the last update. -/
def highestUsn (s : DirectoryServer) : UInt64 := s.nextUsn - 1

def controllersOf (s : DirectoryServer) (domain : String) : List String := (s.controllers.get? domain).getD []

def addController (s : DirectoryServer) (domain server : String) : DirectoryServer :=
  { s with controllers := s.controllers.insert domain (s.controllersOf domain ++ [server]) }

/-! ## Arranging misbehaviour -/

def inject (s : DirectoryServer) (call : Nat) (fault : PullFault) : DirectoryServer :=
  { s with faults := s.faults.insert call fault }

def failNextBind (s : DirectoryServer) (e : TransportError) : DirectoryServer :=
  { s with bindErrors := s.bindErrors ++ [e] }

/-! ## Pages -/

/-- How many objects a request lets into a page; there is always room for one. -/
def pageSize (r : PullRequest) : Nat := max r.terms.maxObjects.toNat 1

/-- The objects that a cursor has not passed. -/
def pending (objects : List NumberedObject) (c : Cursor) : List NumberedObject :=
  objects.filter fun o => c.current < o.usn

/-- The cursor behind a page; the last page completes the cycle. -/
def cursorAfter (c : Cursor) (page : List NumberedObject) (more : Bool) : Cursor :=
  let last := (page.getLast?.map (·.usn)).getD c.current
  ⟨last, c.reserved, if more then c.completed else max last c.completed⟩

def page (objects : List NumberedObject) (r : PullRequest) : Chunk :=
  let waiting := pending objects r.terms.cursor
  let more := waiting.length > pageSize r
  let sent := waiting.take (pageSize r)
  let next := cursorAfter r.terms.cursor sent more
  { Chunk.ofObjects r.terms.context r.terms.cursor next (sent.map (·.object)) more with
    sourceServer := identity
    sourceHistory := history }

/-- What a fault makes of a page. -/
def PullFault.spoil (c : Chunk) : Option PullFault → Chunk
  | some .dropObjects => { c with count := max c.count 1, chain := [] }
  | some .rewindCursor => { c with newCursor := .zero }
  | _ => c

def replyLevel : PullRequest → UInt32
  | .full _ _ => 6
  | .reduced _ => 1

/-! ## Answering -/

def checkHandle (h : Handle) : Call DirectoryServer TransportError Unit :=
  if h = handle then return () else Call.fault invalidHandle "invalid handle"

def contextObjects (context : String) : Call DirectoryServer TransportError (List NumberedObject) := do
  match (← get).contexts.get? context with
  | some objects => return objects
  | none => Call.fault badContext s!"naming context {context} not found"

def takeBindError : Call DirectoryServer TransportError (Option TransportError) :=
  modifyGet fun s => (s.bindErrors.head?, { s with bindErrors := s.bindErrors.tail })

def bind (interface : Guid) (info : BindInfo) : Call DirectoryServer TransportError (Handle × BindInfo) := do
  modify fun s => { s with binds := s.binds ++ [info.extensions] }
  if let some e ← takeBindError then throw e
  if interface ≠ .bindInterface then Call.fault unknownInterface s!"unknown bind guid {interface.text}"
  return (handle, .ofExtensions (info.extensions.inter (← get).extensions))

/-- The fault of a pull; it strikes once. -/
def takeFault (call : Nat) : Call DirectoryServer TransportError (Option PullFault) :=
  modifyGet fun s => (s.faults.get? call, { s with faults := s.faults.erase call })

def pull (h : Handle) (r : PullRequest) : Call DirectoryServer TransportError PullReply := do
  let call := (← get).pulls.length
  modify fun s => { s with pulls := s.pulls ++ [r] }
  checkHandle h
  let fault ← takeFault call
  if let some (.error e) := fault then throw e
  let objects ← contextObjects r.terms.context.dn
  return ⟨replyLevel r, PullFault.spoil (page objects r) fault⟩

def sync (h : Handle) (r : SyncRequest) : Call DirectoryServer TransportError Unit := do
  checkHandle h
  let _ ← contextObjects r.context.dn
  modify fun s => { s with syncs := s.syncs ++ [r] }

def remove (h : Handle) (r : RemovalRequest) : Call DirectoryServer TransportError RemovalResult := do
  checkHandle h
  modify fun s => { s with removals := s.removals ++ [r] }
  let s ← get
  let listed := s.controllersOf r.domain
  if !listed.contains r.server then
    Call.fault noSuchServer s!"{r.server} is not a server of {r.domain}"
  let left := listed.filter (· ≠ r.server)
  if r.commit then set { s with controllers := s.controllers.insert r.domain left }
  return ⟨(if r.commit then left else listed).isEmpty⟩

instance : Server DirectoryServer where
  access := ⟨bind, pull, sync, remove⟩
  handle := handle
  pullBound s := s.nextUsn.toNat + s.faults.entries.length + 1

end DirectoryServer

end DirectoryPull
