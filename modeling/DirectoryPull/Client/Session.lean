import DirectoryPull.Client.AttributeFilter
import DirectoryPull.Client.Connection
import DirectoryPull.Client.Options

/-!
# Sessions

A session pulls naming contexts over one bound connection. Every pull starts at the zero cursor and follows
the server's cursor, page by page, until there is no more.
-/

namespace DirectoryPull

structure Session where
  connection : Connection
  /-- The identity of this replica's history. -/
  identity : Guid
  config : Config
deriving DecidableEq

structure PullStats where
  level : UInt32
  chunks : Nat
  objects : Nat
  /-- The last cursor of the server. -/
  cursor : Cursor
deriving DecidableEq

namespace PullStats

def start (level : UInt32) : PullStats := ⟨level, 0, 0, .zero⟩

def add (s : PullStats) (c : Chunk) : PullStats := ⟨s.level, s.chunks + 1, s.objects + c.count.toNat, c.newCursor⟩

end PullStats

/-- The rule that an answer to a request from a cursor breaks. -/
def Chunk.breach? (cursor : Cursor) (c : Chunk) : Option Breach :=
  if c.isMissingObjects then some (.missingObjects c.count)
  else if !cursor.isAdvancedBy c.newCursor then some (.cursorMovedBack cursor c.newCursor)
  else none

namespace Session

variable {W : Type}

/-! ## Making a session -/

def checkIdentity (identity : Guid) : Action W ReplicationError Unit :=
  if identity.isNil then throw (.invalidArgument .noIdentity) else return ()

/-- Binds an open connection. The identity is looked at before any call is made. -/
def start (server : ServerAccess W) (target : String) (identity : Guid) : Action W ReplicationError Session := do
  checkIdentity identity
  return ⟨← Connection.bind server target, identity, .default⟩

def connect (connector : Connector W) (server : ServerAccess W) (target : String) (credentials : Credentials)
    (config : Config) (identity : Guid) : Action W ReplicationError Session := do
  checkIdentity identity
  return ⟨← Connection.connect connector server target config credentials, identity, config⟩

/-- Later pulls go by this configuration. -/
def withConfig (s : Session) (config : Config) : Session := { s with config := config }

/-! ## Pulling -/

/-- What a request says in either layout. -/
def terms (s : Session) (dn : String) (source destination : Guid) (options : PullOptions) : PullTerms :=
  { PullTerms.start (.ofDn dn) source destination with
    flags := options.sentFlags
    maxObjects := s.config.maxObjects
    maxBytes := s.config.maxBytes
    operation := options.operation }

/-- A request in the layout that was agreed to. -/
def request (s : Session) (terms : PullTerms) (wanted : Option AttributeSet) : PullRequest :=
  if Extensions.supportsRequestV8 s.connection.extensions then .full terms ⟨wanted, none, []⟩ else .reduced terms

/-- The attribute set of a pull, where it needs one. -/
def wanted (schema : SchemaAccess W) (options : PullOptions) : Action W ReplicationError (Option AttributeSet) := do
  if options.isFiltered then return some (← AttributeFilter.build schema) else return none

def pullChunk (peers : Peers W) (s : Session) (options : PullOptions) (r : PullRequest) :
    Action W ReplicationError Chunk := do
  let reply ← Action.ask (peers.server.pull s.connection.handle r) (.connection s.connection.target)
  if let some breach := reply.chunk.breach? r.terms.cursor then throw (.contract breach)
  Action.ask (peers.store ⟨reply.level, reply.chunk, options.schema, r⟩) .apply
  Action.note (.chunkApplied r.terms.context.dn reply.level reply.chunk.count reply.chunk.more reply.chunk.newCursor)
  return reply.chunk

/-- Pulls until the server has no more; none if it still has more after so many calls. -/
def pullAll (peers : Peers W) (s : Session) (options : PullOptions) :
    Nat → PullRequest → PullStats → Action W ReplicationError (Option PullStats)
  | 0, _, _ => return none
  | calls + 1, r, stats => do
    let chunk ← pullChunk peers s options r
    if chunk.more then pullAll peers s options calls (r.withCursor chunk.newCursor) (stats.add chunk)
    else return some (stats.add chunk)

/-- Pulls every change of a naming context, in at most so many calls. -/
def replicate (peers : Peers W) (s : Session) (calls : Nat) (dn : String) (source destination : Guid)
    (options : PullOptions) : Action W ReplicationError (Option PullStats) := do
  let set ← wanted peers.schema options
  let r := s.request (s.terms dn source destination options) set
  Action.note (.pullStarted dn r.level r.terms.flags options.operation)
  let some stats ← pullAll peers s options calls r (.start r.level) | return none
  Action.note (.pullFinished dn stats.chunks stats.objects)
  return some stats

end Session

end DirectoryPull
