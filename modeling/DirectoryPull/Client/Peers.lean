import DirectoryPull.Client.Config
import DirectoryPull.Client.Event
import DirectoryPull.Message.Bind
import DirectoryPull.Message.Maintenance
import DirectoryPull.Message.Reply
import DirectoryPull.Schema.Source

/-!
# What the client works with

The client reaches servers, the schema and the store of a replica through calls. A call may change the
surroundings, also when it fails. The client's own actions keep a log besides.
-/

namespace DirectoryPull

abbrev Call (W ε α : Type) := EStateM ε W α

/-- A server behind an open connection. -/
structure ServerAccess (W : Type) where
  bind : Guid → BindInfo → Call W TransportError (Handle × BindInfo)
  pull : Handle → PullRequest → Call W TransportError PullReply
  sync : Handle → SyncRequest → Call W TransportError Unit
  remove : Handle → RemovalRequest → Call W TransportError RemovalResult

/-- Opens the connection that a binding describes. -/
abbrev Connector (W : Type) := Binding → Credentials → Call W TransportError Unit

structure SchemaAccess (W : Type) where
  base : Call W SchemaError String
  search : SearchQuery → Call W SchemaError (List SearchEntry)
  resolve : String → Call W SchemaError AttributeId

/-- A chunk on its way to the store, with the request that it answers. -/
structure Delivery where
  level : UInt32
  chunk : Chunk
  /-- The schema is pulled. -/
  schema : Bool
  request : PullRequest
deriving DecidableEq

abbrev StoreAccess (W : Type) := Delivery → Call W ApplyError Unit

/-- What a session pulls with. -/
structure Peers (W : Type) where
  server : ServerAccess W
  schema : SchemaAccess W
  store : StoreAccess W

/-! ## Actions -/

/-- The surroundings and the log, oldest event first. -/
structure Scene (W : Type) where
  world : W
  log : List Event

/-- What the client does in surroundings `W`. -/
abbrev Action (W ε α : Type) := EStateM ε (Scene W) α

namespace Action

variable {V W ε δ α : Type}

def note (e : Event) : Action W ε Unit := modify fun s => { s with log := s.log ++ [e] }

/-- Makes a call; its failure is the action's, in a wrapping. -/
def ask (call : Call W δ α) (wrap : δ → ε) : Action W ε α := fun s =>
  match call s.world with
  | .ok a w => .ok a { s with world := w }
  | .error e w => .error (wrap e) { s with world := w }

end Action

/-- A call that concerns a part of the surroundings. -/
def Call.on {V W ε α : Type} (part : V → W) (put : V → W → V) (call : Call W ε α) : Call V ε α := fun v =>
  match call (part v) with
  | .ok a w => .ok a (put v w)
  | .error e w => .error e (put v w)

/-- The same server, seen in larger surroundings. -/
def ServerAccess.on {V W : Type} (part : V → W) (put : V → W → V) (p : ServerAccess W) : ServerAccess V where
  bind guid info := (p.bind guid info).on part put
  pull handle request := (p.pull handle request).on part put
  sync handle request := (p.sync handle request).on part put
  remove handle request := (p.remove handle request).on part put

def SchemaAccess.on {V W : Type} (part : V → W) (put : V → W → V) (p : SchemaAccess W) : SchemaAccess V where
  base := p.base.on part put
  search query := (p.search query).on part put
  resolve name := (p.resolve name).on part put

end DirectoryPull
