import DirectoryPull.Client.Peers

/-! # Servers that can be talked to -/

namespace DirectoryPull

/-- A state that behaves as a server. -/
class Server (σ : Type) where
  access : ServerAccess σ
  /-- The handle that every bind hands out. -/
  handle : Handle
  /-- No pull that starts now takes more calls. -/
  pullBound : σ → Nat

/-- Fails a call with a fault of the server. -/
def Call.fault {W α : Type} (status : UInt32) (text : String) : Call W TransportError α :=
  throw (.fault status text)

end DirectoryPull
