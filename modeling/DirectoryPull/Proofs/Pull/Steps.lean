import DirectoryPull.Proofs.Frame
import DirectoryPull.Proofs.Message.Chunk
import DirectoryPull.Server.Basic
import DirectoryPull.Store.ChunkStore

/-!
# The steps of a pull

A session between a server, a chunk store and a schema that have nothing to do with each other: what one call
leads to, and how the calls of a pull follow on each other.
-/

namespace DirectoryPull

/-! ## Surroundings in three parts -/

structure Surroundings (σ τ : Type) where
  server : σ
  store : ChunkStore
  /-- Whatever the schema is looked up in. -/
  schema : τ

/-- A server, a chunk store and a schema, each in its own part. -/
def Peers.apart {σ τ : Type} (server : ServerAccess σ) (schema : SchemaAccess τ) : Peers (Surroundings σ τ) where
  server := server.on (·.server) fun w server => { w with server := server }
  schema := schema.on (·.schema) fun w schema => { w with schema := schema }
  store d := (ChunkStore.apply d).on (·.store) fun w store => { w with store := store }

/-! ## Results -/

namespace Action

variable {W ε α γ : Type}

/-- The action ends with a result and leaves a world behind, whatever it notes in the log. -/
def Yields (act : Action W ε α) (scene : Scene W) (result : Except ε α) (world : W) : Prop :=
  ∃ log, act scene = match result with
    | .ok a => .ok a ⟨world, log⟩
    | .error e => .error e ⟨world, log⟩

theorem yields_iff {act : Action W ε α} {scene : Scene W} {result : Except ε α} {world : W} :
    Yields act scene result world ↔ ∃ log, Call.Answers act scene result ⟨world, log⟩ := by
  cases result <;> exact Iff.rfl

theorem Yields.unique {act : Action W ε α} {scene : Scene W} {result result' : Except ε α} {world world' : W}
    (h : Yields act scene result world) (h' : Yields act scene result' world') : result = result' := by
  obtain ⟨log, hrun⟩ := yields_iff.mp h
  obtain ⟨log', hrun'⟩ := yields_iff.mp h'
  exact (hrun.unique hrun').1

theorem Yields.of_answers {act : Action W ε α} {scene scene' : Scene W} {result : Except ε α}
    (h : Call.Answers act scene result scene') : Yields act scene result scene'.world :=
  yields_iff.mpr ⟨scene'.log, h⟩

theorem yields_pure (a : α) (scene : Scene W) : Yields (pure a : Action W ε α) scene (.ok a) scene.world :=
  ⟨scene.log, rfl⟩

theorem yields_bind {act : Action W ε α} {next : α → Action W ε γ} {scene : Scene W} {a : α} {w world : W}
    {result : Except ε γ} (h : Yields act scene (.ok a) w)
    (hn : ∀ log, Yields (next a) ⟨w, log⟩ result world) : Yields (act >>= next) scene result world := by
  obtain ⟨log, hrun⟩ := yields_iff.mp h
  obtain ⟨log', hrest⟩ := yields_iff.mp (hn log)
  exact yields_iff.mpr ⟨log', hrun.bind hrest⟩

theorem yields_bind_error {act : Action W ε α} {next : α → Action W ε γ} {scene : Scene W} {e : ε} {w : W}
    (h : Yields act scene (.error e) w) : Yields (act >>= next) scene (.error e) w := by
  obtain ⟨log, hrun⟩ := yields_iff.mp h
  exact yields_iff.mpr ⟨log, hrun.bind_error⟩

theorem Keeps.of_yields {β : Type} {f : W → β} {act : Action W ε α} (h : Keeps f act) {scene : Scene W}
    {result : Except ε α} {world : W} (hrun : Yields act scene result world) : f world = f scene.world := by
  obtain ⟨log, hanswers⟩ := yields_iff.mp hrun
  exact Call.Keeps.of_answers h hanswers

theorem yields_note (e : Event) (scene : Scene W) : Yields (note e : Action W ε Unit) scene (.ok ()) scene.world :=
  ⟨_, rfl⟩

section

variable {δ : Type} {call : Call W δ α} {wrap : δ → ε} {scene : Scene W} {world : W}

theorem yields_ask {a : α} (h : call scene.world = .ok a world) : Yields (ask call wrap) scene (.ok a) world :=
  ⟨scene.log, by simp only [ask, h]⟩

theorem yields_ask_error {e : δ} (h : call scene.world = .error e world) :
    Yields (ask call wrap) scene (.error (wrap e)) world :=
  ⟨scene.log, by simp only [ask, h]⟩

end

/-- The action with its failure for a result. -/
def attempt {δ : Type} (act : Action W ε α) : Action W δ (Except ε α) := fun scene =>
  match act scene with
  | .ok a scene => .ok (.ok a) scene
  | .error e scene => .ok (.error e) scene

theorem answers_attempt {δ : Type} {act : Action W ε α} {scene scene' : Scene W} {result : Except ε α}
    (h : Call.Answers act scene result scene') :
    Call.Answers (act.attempt : Action W δ (Except ε α)) scene (.ok result) scene' := by
  unfold Call.Answers at h ⊢
  unfold attempt
  rw [h]
  cases result <;> rfl

theorem yields_attempt {δ : Type} {act : Action W ε α} {scene : Scene W} {result : Except ε α} {world : W}
    (h : Yields act scene result world) : Yields (act.attempt : Action W δ (Except ε α)) scene (.ok result) world := by
  obtain ⟨log, hrun⟩ := yields_iff.mp h
  exact yields_iff.mpr ⟨log, answers_attempt hrun⟩

end Action

/-! ## Replies -/

namespace Cursor

/-- One cursor is behind another if it is in no component ahead of it. -/
instance : LE Cursor :=
  ⟨fun c d => c.current ≤ d.current ∧ c.reserved ≤ d.reserved ∧ c.completed ≤ d.completed⟩

instance (c d : Cursor) : Decidable (c ≤ d) :=
  inferInstanceAs (Decidable (c.current ≤ d.current ∧ c.reserved ≤ d.reserved ∧ c.completed ≤ d.completed))

theorem isAdvancedBy_iff (c d : Cursor) : c.isAdvancedBy d = true ↔ c ≤ d := by
  simp only [isAdvancedBy, Bool.and_eq_true, decide_eq_true_eq, and_assoc]
  exact Iff.rfl

end Cursor

namespace Chunk

/-- What a client at a cursor takes: objects where objects are claimed, a cursor that is not behind, and a list
as long as its count. -/
structure Good (cursor : Cursor) (c : Chunk) : Prop where
  listed : c.count = 0 ∨ c.chain ≠ []
  forward : cursor ≤ c.newCursor
  counted : c.chain.length = c.count.toNat

theorem breach_missing {cursor : Cursor} {c : Chunk} (hc : c.count ≠ 0 ∧ c.chain = []) :
    c.breach? cursor = some (.missingObjects c.count) := by
  rw [breach?, if_pos ((isMissingObjects_iff c).mpr hc)]

theorem breach_back {cursor : Cursor} {c : Chunk} (hc : ¬ (c.count ≠ 0 ∧ c.chain = []))
    (hb : ¬ cursor ≤ c.newCursor) : c.breach? cursor = some (.cursorMovedBack cursor c.newCursor) := by
  rw [breach?, if_neg (by rwa [isMissingObjects_iff]), if_pos]
  rwa [Bool.not_eq_true', ← Bool.not_eq_true, Cursor.isAdvancedBy_iff]

theorem breach_none {cursor : Cursor} {c : Chunk} (hc : ¬ (c.count ≠ 0 ∧ c.chain = []))
    (hf : cursor ≤ c.newCursor) : c.breach? cursor = none := by
  rw [breach?, if_neg (by rwa [isMissingObjects_iff]), if_neg]
  rw [Bool.not_eq_true', Bool.not_eq_false]
  exact (Cursor.isAdvancedBy_iff _ _).mpr hf

theorem good_iff {cursor : Cursor} {c : Chunk} : c.Good cursor ↔
    ¬ (c.count ≠ 0 ∧ c.chain = []) ∧ cursor ≤ c.newCursor ∧ c.chain.length = c.count.toNat := by
  constructor
  · rintro ⟨hl, hf, hn⟩
    exact ⟨fun h => hl.elim h.1 fun hne => hne h.2, hf, hn⟩
  · rintro ⟨hl, hf, hn⟩
    refine ⟨?_, hf, hn⟩
    by_cases h : c.count = 0
    · exact Or.inl h
    · exact Or.inr fun hc => hl ⟨h, hc⟩

end Chunk

/-! ## Requests that follow on each other -/

namespace PullRequest

@[simp]
theorem terms_withCursor (c : Cursor) (r : PullRequest) : (r.withCursor c).terms = { r.terms with cursor := c } := by
  cases r <;> rfl

@[simp]
theorem level_withCursor (c : Cursor) (r : PullRequest) : (r.withCursor c).level = r.level := by
  cases r <;> rfl

@[simp]
theorem withCursor_withCursor (c d : Cursor) (r : PullRequest) :
    (r.withCursor d).withCursor c = r.withCursor c := by
  cases r <;> rfl

theorem withCursor_self (r : PullRequest) : r.withCursor r.terms.cursor = r := by
  cases r <;> rfl

end PullRequest

/-! ## One call -/

def ChunkStore.with (store : ChunkStore) (d : Delivery) : ChunkStore := ⟨store.chunks ++ [d.stored]⟩

namespace Session

open DirectoryPull.Action

variable {σ τ : Type} (server : ServerAccess σ) (schema : SchemaAccess τ) (s : Session) (options : PullOptions)
  (r : PullRequest) (w : Surroundings σ τ) (log : List Event)

theorem pullChunk_refused {e : TransportError} {after : σ}
    (h : server.pull s.connection.handle r w.server = .error e after) :
    Yields (pullChunk (.apart server schema) s options r) ⟨w, log⟩ (.error (.connection s.connection.target e))
      { w with server := after } := by
  refine ⟨log, ?_⟩
  simp only [pullChunk, bind, EStateM.bind, ask, Peers.apart, ServerAccess.on, Call.on, h]

section

variable {reply : PullReply} {after : σ} (h : server.pull s.connection.handle r w.server = .ok reply after)
include h

theorem pullChunk_breach {b : Breach} (hb : reply.chunk.breach? r.terms.cursor = some b) :
    Yields (pullChunk (.apart server schema) s options r) ⟨w, log⟩ (.error (.contract b))
      { w with server := after } := by
  refine ⟨log, ?_⟩
  simp only [pullChunk, bind, EStateM.bind, ask, Peers.apart, ServerAccess.on, Call.on, h, hb]
  rfl

theorem pullChunk_rejected (hb : reply.chunk.breach? r.terms.cursor = none)
    (hc : reply.chunk.chain.length ≠ reply.chunk.count.toNat) :
    Yields (pullChunk (.apart server schema) s options r) ⟨w, log⟩
      (.error (.apply (.rejected
        s!"object list holds {reply.chunk.chain.length} objects, count says {reply.chunk.count}")))
      { w with server := after } := by
  refine ⟨log, ?_⟩
  rw [← Chunk.dns_length] at hc ⊢
  simp only [pullChunk, bind, EStateM.bind, ask, Peers.apart, ServerAccess.on, Call.on, h, hb]
  simp only [ChunkStore.apply, if_neg hc]

theorem pullChunk_stored (hg : reply.chunk.Good r.terms.cursor) :
    Yields (pullChunk (.apart server schema) s options r) ⟨w, log⟩ (.ok reply.chunk)
      ⟨after, w.store.with ⟨reply.level, reply.chunk, options.schema, r⟩, w.schema⟩ := by
  refine ⟨log ++ [.chunkApplied r.terms.context.dn reply.level reply.chunk.count reply.chunk.more
    reply.chunk.newCursor], ?_⟩
  obtain ⟨hl, hf, hc⟩ := Chunk.good_iff.mp hg
  have hb := Chunk.breach_none hl hf
  rw [← Chunk.dns_length] at hc
  simp only [pullChunk, bind, EStateM.bind, ask, Peers.apart, ServerAccess.on, Call.on, h, hb]
  simp only [pure, EStateM.pure, ChunkStore.apply, if_pos hc]
  rfl

end

/-! ## Call after call -/

variable {peers : Peers (Surroundings σ τ)} {s options r w log}
variable {calls : Nat} {stats : PullStats} {w' world : Surroundings σ τ}

theorem pullAll_error {e : ReplicationError}
    (h : Yields (pullChunk peers s options r) ⟨w, log⟩ (.error e) world) :
    Yields (pullAll peers s options (calls + 1) r stats) ⟨w, log⟩ (.error e) world := by
  unfold pullAll
  exact yields_bind_error h

theorem pullAll_last {chunk : Chunk} (h : Yields (pullChunk peers s options r) ⟨w, log⟩ (.ok chunk) world)
    (hm : chunk.more = false) :
    Yields (pullAll peers s options (calls + 1) r stats) ⟨w, log⟩ (.ok (some (stats.add chunk))) world := by
  unfold pullAll
  refine yields_bind h fun log' => ?_
  simp only [hm, Bool.false_eq_true, if_false]
  exact yields_pure _ _

theorem pullAll_more {chunk : Chunk} {result : Except ReplicationError (Option PullStats)}
    (h : Yields (pullChunk peers s options r) ⟨w, log⟩ (.ok chunk) w') (hm : chunk.more = true)
    (hn : ∀ log, Yields (pullAll peers s options calls (r.withCursor chunk.newCursor) (stats.add chunk))
      ⟨w', log⟩ result world) :
    Yields (pullAll peers s options (calls + 1) r stats) ⟨w, log⟩ result world := by
  unfold pullAll
  refine yields_bind h fun log' => ?_
  simp only [hm, if_true]
  exact hn log'

/-! ## A whole pull -/

variable {dn : String} {source destination : Guid} {scene built : Scene (Surroundings σ τ)}
  {set : Option AttributeSet} {result : Except ReplicationError (Option PullStats)}

def firstRequest (s : Session) (dn : String) (source destination : Guid) (options : PullOptions)
    (set : Option AttributeSet) : PullRequest :=
  s.request (s.terms dn source destination options) set

theorem firstRequest_terms (s : Session) (dn : String) (source destination : Guid) (options : PullOptions)
    (set : Option AttributeSet) :
    (firstRequest s dn source destination options set).terms = s.terms dn source destination options := by
  unfold firstRequest request
  split <;> rfl

/-- The log of a pull that has come through ends with what the pull has done. -/
def concluded {W : Type} (dn : String) (result : Except ReplicationError (Option PullStats)) (scene : Scene W) :
    Scene W :=
  match result with
  | .ok (some stats) => { scene with log := scene.log ++ [.pullFinished dn stats.chunks stats.objects] }
  | .ok none | .error _ => scene

theorem concluded_world {W : Type} (dn : String) (result : Except ReplicationError (Option PullStats))
    (scene : Scene W) : (concluded dn result scene).world = scene.world := by
  unfold concluded
  split <;> rfl

theorem replicate_answers {W : Type} {peers : Peers W} {scene built after : Scene W}
    (hset : Call.Answers (wanted peers.schema options) scene (.ok set) built)
    (hr : r = firstRequest s dn source destination options set)
    (hpull : Call.Answers (pullAll peers s options calls r (.start r.level))
      ⟨built.world, built.log ++ [.pullStarted dn r.level r.terms.flags options.operation]⟩ result after) :
    Call.Answers (replicate peers s calls dn source destination options) scene result (concluded dn result after) := by
  subst hr
  unfold replicate
  apply hset.bind
  apply (answers_note _ built).bind
  cases result with
  | error e => exact hpull.bind_error
  | ok stats? =>
    apply hpull.bind
    cases stats? with
    | none => exact Call.answers_pure _ _
    | some stats => exact (answers_note _ after).bind (Call.answers_pure _ _)

theorem replicate_yields (hmade : Call.Answers (wanted peers.schema options) scene (.ok set) built)
    (h : ∀ log, Yields (pullAll peers s options calls (firstRequest s dn source destination options set)
      (.start (firstRequest s dn source destination options set).level)) ⟨built.world, log⟩ result world) :
    Yields (replicate peers s calls dn source destination options) scene result world := by
  obtain ⟨log, hrun⟩ := yields_iff.mp (h _)
  have hpulled := Yields.of_answers (replicate_answers hmade rfl hrun)
  rwa [concluded_world] at hpulled

theorem replicate_unmade {e : ReplicationError}
    (hmade : Call.Answers (wanted peers.schema options) scene (.error e) built) :
    Yields (replicate peers s calls dn source destination options) scene (.error e) built.world :=
  Yields.of_answers hmade.bind_error

/-- Making the request leaves the server and the store alone. -/
theorem wanted_world {made : Except ReplicationError (Option AttributeSet)}
    (hmade : Call.Answers (wanted (Peers.apart server schema).schema options) scene made built) :
    built.world = ⟨scene.world.server, scene.world.store, built.world.schema⟩ := by
  have hkeep : ∀ {β : Type} (f : Surroundings σ τ → β), (∀ w schema, f { w with schema := schema } = f w) →
      f built.world = f scene.world := by
    intro β f hf
    have hrun : Action.Keeps f (wanted (Peers.apart server schema).schema options) :=
      keeps_wanted (SchemaAccess.keeps_on hf schema) options
    exact Call.Keeps.of_answers hrun hmade
  have hserver := hkeep (·.server) fun _ _ => rfl
  have hstore := hkeep (·.store) fun _ _ => rfl
  rw [← hserver, ← hstore]

end Session

/-! ## Totals -/

/-- How many objects the server claims to have sent in some replies. -/
def claimed : List PullReply → Nat
  | [] => 0
  | r :: rest => r.chunk.count.toNat + claimed rest

theorem claimed_le (replies : List PullReply) : claimed replies ≤ replies.length * (UInt32.size - 1) := by
  induction replies with
  | nil => exact Nat.zero_le _
  | cons r replies ih =>
    have hr : r.chunk.count.toNat < UInt32.size := r.chunk.count.toNat_lt
    rw [claimed, List.length_cons, Nat.succ_mul]
    omega

/-- The totals of a pull that is not too long fit into 64 bits. -/
theorem claimed_lt {replies : List PullReply} (h : replies.length < UInt32.size) : claimed replies < UInt64.size := by
  have hle := claimed_le replies
  have hmul : replies.length * (UInt32.size - 1) ≤ (UInt32.size - 1) * (UInt32.size - 1) :=
    Nat.mul_le_mul_right _ (by omega)
  have hsquare : (UInt32.size - 1) * (UInt32.size - 1) < UInt64.size := by decide
  omega

/-! ## Small surroundings -/

/-- A schema that is never asked. -/
def SchemaAccess.unasked : SchemaAccess Unit := ⟨pure "", fun _ => pure [], fun _ => pure ⟨0⟩⟩

/-- A session with pages of so many objects. -/
def Session.ofLimit (handle : Handle) (maxObjects : UInt32) : Session :=
  ⟨⟨"dc1.example.com", handle, .offered⟩, .fill 1, { Config.default with maxObjects := maxObjects }⟩

end DirectoryPull
