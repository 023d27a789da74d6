import DirectoryPull.Client.Maintenance
import DirectoryPull.Client.Session
import DirectoryPull.Schema.Recorded
import DirectoryPull.Server.Basic
import DirectoryPull.Server.Table
import DirectoryPull.Store.ChunkStore

/-!
# Clients around one server

Named sessions, each with a schema and a store of its own, and named connections, all to the same server.
-/

namespace DirectoryPull

/-- A session with what it pulls into and what it asks about attributes. -/
structure Replica where
  session : Session
  schema : RecordedSchema
  store : FailingStore

structure Bench (σ : Type) where
  server : σ
  sessions : Table String Replica
  connections : Table String Connection
  /-- Fails every attempt to open a connection. -/
  lineError : Option TransportError
  /-- Attempts to open a connection, oldest first. -/
  opened : List (Binding × Credentials)

inductive BenchError
  | noSession
  | noConnection
  | failed (e : ReplicationError)
  /-- A pull took more calls than its server ever needs. -/
  | unfinished

namespace Bench

variable {σ : Type}

def ofServer (server : σ) : Bench σ := ⟨server, .empty, .empty, none, []⟩

/-! ## Surroundings -/

/-- Where one session pulls. -/
structure Site (σ : Type) where
  server : σ
  schema : RecordedSchema
  store : FailingStore

section

variable [Server σ]

def siteServer : ServerAccess (Site σ) := Server.access.on Site.server fun s server => { s with server := server }

def siteSchema : SchemaAccess (Site σ) :=
  RecordedSchema.access.on Site.schema fun s schema => { s with schema := schema }

def siteStore : StoreAccess (Site σ) := fun d =>
  (FailingStore.apply d).on Site.store fun s store => { s with store := store }

def peers : Peers (Site σ) := ⟨siteServer, siteSchema, siteStore⟩

def serverAccess : ServerAccess (Bench σ) := Server.access.on Bench.server fun b server => { b with server := server }

end

/-- Every connection leads to the one server. -/
def connector : Connector (Bench σ) := fun binding credentials => do
  modify fun b => { b with opened := b.opened ++ [(binding, credentials)] }
  if let some e := (← get).lineError then throw e

/-! ## Actions -/

abbrev Step (σ α : Type) := Action (Bench σ) BenchError α

/-- An action of the client library. -/
def perform {α : Type} (act : Action (Bench σ) ReplicationError α) : Step σ α := fun s =>
  match act s with
  | .ok a s => .ok a s
  | .error e s => .error (.failed e) s

def session (id : String) : Step σ Replica := do
  let some replica := (← get).world.sessions.get? id | throw .noSession
  return replica

def connection (id : String) : Step σ Connection := do
  let some c := (← get).world.connections.get? id | throw .noConnection
  return c

def modifyBench (f : Bench σ → Bench σ) : Step σ Unit := modify fun s => { s with world := f s.world }

def putSession (id : String) (r : Replica) : Step σ Unit :=
  modifyBench fun b => { b with sessions := b.sessions.insert id r }

def putConnection (id : String) (c : Connection) : Step σ Unit :=
  modifyBench fun b => { b with connections := b.connections.insert id c }

/-- The line that connections are opened over. -/
def setLine (error : Option TransportError) : Step σ Unit :=
  modifyBench fun b => { b with lineError := error, opened := [] }

variable [Server σ]

/-! ## Sessions -/

def startSession (id target : String) (identity : Guid) (schema : SchemaView) (store : FailingStore) :
    Step σ Session := do
  let s ← perform (Session.start serverAccess target identity)
  putSession id ⟨s, .ofView schema, store⟩
  return s

def connectSession (id target : String) (credentials : Credentials) (config : Config) (identity : Guid)
    (schema : SchemaView) (store : FailingStore) : Step σ Session := do
  let s ← perform (Session.connect connector serverAccess target credentials config identity)
  putSession id ⟨s, .ofView schema, store⟩
  return s

def setConfig (id : String) (config : Config) : Step σ Unit := do
  let r ← session id
  putSession id { r with session := r.session.withConfig config }

/-- Runs an action of a session at its site. -/
def atSite {α : Type} (id : String) (r : Replica) (act : Action (Site σ) ReplicationError α) : Step σ α := fun s =>
  let back := fun (t : Scene (Site σ)) => Scene.mk
    { s.world with
      server := t.world.server
      sessions := s.world.sessions.insert id { r with schema := t.world.schema, store := t.world.store } }
    t.log
  match act ⟨⟨s.world.server, r.schema, r.store⟩, s.log⟩ with
  | .ok a t => .ok a (back t)
  | .error e t => .error (.failed e) (back t)

def replicate (id dn : String) (source destination : Guid) (options : PullOptions) : Step σ PullStats := do
  let r ← session id
  let bound := Server.pullBound (← get).world.server
  let some stats ← atSite id r (Session.replicate peers r.session bound dn source destination options)
    | throw .unfinished
  return stats

/-! ## Connections -/

def bindConnection (id target : String) : Step σ Connection := do
  let c ← perform (Connection.bind serverAccess target)
  putConnection id c
  return c

def openConnection (id target : String) (config : Config) (credentials : Credentials) : Step σ Connection := do
  let c ← perform (Connection.connect connector serverAccess target config credentials)
  putConnection id c
  return c

def triggerSync (id : String) (source : Guid) (context : String) (options : ReplicaFlags) : Step σ Unit := do
  let c ← connection id
  perform (c.triggerSync serverAccess source context options)

def removeServer (id removed domain : String) : Step σ Unit := do
  let c ← connection id
  perform (c.removeServer serverAccess removed domain)

end Bench

end DirectoryPull
