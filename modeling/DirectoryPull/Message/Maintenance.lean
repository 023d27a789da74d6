import DirectoryPull.Message.Request

/-! # Requests that move no changes -/

namespace DirectoryPull

/-- Asks a server to start replicating a naming context from a source. -/
structure SyncRequest where
  context : ObjectName
  source : Guid
  /-- Name of the source, where it is addressed by name. -/
  sourceDns : Option String
  options : ReplicaFlags
deriving DecidableEq

/-- Asks a server to take another out of a domain. -/
structure RemovalRequest where
  server : String
  domain : String
  /-- Carry the removal out rather than only check it. -/
  commit : Bool
deriving DecidableEq

structure RemovalResult where
  /-- The removed server was the last of its domain. -/
  wasLast : Bool
deriving DecidableEq

def SyncRequest.level : UInt32 := 1

/-- Addresses the source by its identifier. -/
def SyncRequest.ofSource (source : Guid) (context : String) (options : ReplicaFlags) : SyncRequest :=
  ⟨.ofDn context, source, none, options⟩

def RemovalRequest.level : UInt32 := 1

def RemovalRequest.committing (server domain : String) : RemovalRequest := ⟨server, domain, true⟩

end DirectoryPull
