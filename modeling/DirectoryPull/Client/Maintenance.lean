import DirectoryPull.Client.Connection

/-! # Maintenance calls -/

namespace DirectoryPull.Connection

variable {W : Type}

/-- Asks the server to pull a naming context from a source. -/
def triggerSync (server : ServerAccess W) (c : Connection) (source : Guid) (context : String)
    (options : ReplicaFlags) : Action W ReplicationError Unit := do
  Action.ask (server.sync c.handle (.ofSource source context options)) (.operation "DsReplicaSync")
  Action.note (.syncRequested c.target context source options)

/-- Takes a server out of a domain; this is always carried out. -/
def removeServer (server : ServerAccess W) (c : Connection) (removed domain : String) :
    Action W ReplicationError Unit := do
  let result ← Action.ask (server.remove c.handle (.committing removed domain)) (.operation "DsRemoveDSServer")
  Action.note (if result.wasLast then .lastServerRemoved removed domain else .serverRemoved removed domain)

end DirectoryPull.Connection
