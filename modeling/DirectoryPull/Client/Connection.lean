import DirectoryPull.Client.Peers

/-!
# Bound connections

A client offers everything it speaks. What the server answers beyond that does not count.
-/

namespace DirectoryPull

structure Connection where
  /-- The server talked to. -/
  target : String
  handle : Handle
  /-- What both sides agreed to. -/
  extensions : Extensions
deriving DecidableEq

namespace Connection

variable {W : Type}

/-- The bind handshake: the handle and the agreed capabilities. -/
def negotiate (server : ServerAccess W) (target : String) : Action W ReplicationError (Handle × Extensions) := do
  Action.note (.binding target .offered)
  let (handle, info) ← Action.ask (server.bind .bindInterface .offered) (.connection target)
  let agreed := info.extensions.inter Extensions.offered
  if agreed ≠ info.extensions then Action.note (.unoffered target (info.extensions.diff Extensions.offered))
  Action.note (.bound target agreed)
  return (handle, agreed)

def bind (server : ServerAccess W) (target : String) : Action W ReplicationError Connection := do
  let (handle, extensions) ← negotiate server target
  return ⟨target, handle, extensions⟩

def connect (connector : Connector W) (server : ServerAccess W) (target : String) (config : Config)
    (credentials : Credentials) : Action W ReplicationError Connection := do
  let binding := config.bindingFor target
  Action.note (.opening binding)
  Action.ask (connector binding credentials) (.connection target)
  bind server target

end Connection

end DirectoryPull
