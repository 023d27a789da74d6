import DirectoryPull.Flags.Basic
import DirectoryPull.Guid.Basic

/-!
# The bind handshake

Each side states its capabilities; the server answers with a handle for the calls that follow.
-/

namespace DirectoryPull

/-- The interface that every bind call names. -/
def Guid.bindInterface : Guid :=
  ⟨[0xe2, 0x4d, 0x20, 0x1a, 0x4f, 0xd6, 0x11, 0xd1, 0xa3, 0xda, 0x00, 0x00, 0xf8, 0x75, 0xae, 0x0d], rfl⟩

structure BindInfo where
  extensions : Extensions
  /-- Site of the caller. -/
  site : Guid
  /-- Process id of the caller. -/
  process : UInt32
  epoch : UInt32
deriving DecidableEq

namespace BindInfo

/-- Length tag of the block. -/
def length : UInt32 := 28

def ofExtensions (e : Extensions) : BindInfo := ⟨e, .nil, 0, 0⟩

/-- What this client sends. -/
def offered : BindInfo := ofExtensions .offered

end BindInfo

/-- The session identity a server hands out at bind time. -/
structure Handle where
  tag : UInt32
  id : Guid
deriving DecidableEq

def Handle.isNull (h : Handle) : Bool := h.tag == 0 && h.id.isNil

end DirectoryPull
