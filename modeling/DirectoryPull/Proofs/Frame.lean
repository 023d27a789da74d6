import DirectoryPull.Client.Session

/-!
# What actions leave alone

A call that concerns one part of the surroundings keeps the other parts, and so does every action that makes
only such calls.
-/

namespace DirectoryPull

namespace Call

variable {V W β ε α γ : Type} {f : W → β}

/-- The call comes to an answer and leaves some surroundings behind. -/
def Answers (call : Call W ε α) (w : W) (answer : Except ε α) (w' : W) : Prop :=
  call w = match answer with
    | .ok a => .ok a w'
    | .error e => .error e w'

/-- The surroundings behind a call, whether it failed or not. -/
def after (call : Call W ε α) (w : W) : W :=
  match call w with
  | .ok _ w => w
  | .error _ w => w

section

variable {call : Call W ε α} {next : α → Call W ε γ} {w u v : W} {answer : Except ε α}

theorem exists_answers (call : Call W ε α) (w : W) : ∃ answer u, call.Answers w answer u := by
  unfold Answers
  cases h : call w with
  | ok a u => exact ⟨.ok a, u, rfl⟩
  | error e u => exact ⟨.error e, u, rfl⟩

theorem Answers.unique {answer' : Except ε α} {u' : W} (h : call.Answers w answer u) (h' : call.Answers w answer' u') :
    answer = answer' ∧ u = u' := by
  unfold Answers at h h'
  rw [h] at h'
  cases answer <;> cases answer' <;> cases h' <;> exact ⟨rfl, rfl⟩

theorem answers_pure (a : α) (w : W) : (pure a : Call W ε α).Answers w (.ok a) w := rfl

theorem Answers.after_eq (h : call.Answers w answer u) : call.after w = u := by
  unfold Answers at h
  unfold after
  rw [h]
  cases answer <;> rfl

theorem Answers.bind {a : α} {answer : Except ε γ} (h : call.Answers w (.ok a) u)
    (hn : (next a).Answers u answer v) : (call >>= next).Answers w answer v := by
  unfold Answers at h hn ⊢
  simp only [Bind.bind, EStateM.bind, h, hn]

theorem Answers.bind_error {e : ε} (h : call.Answers w (.error e) u) : (call >>= next).Answers w (.error e) u := by
  unfold Answers at h ⊢
  simp only [Bind.bind, EStateM.bind, h]

theorem Answers.of_bind {a : α} {answer : Except ε γ} (h : call.Answers w (.ok a) u)
    (hrun : (call >>= next).Answers w answer v) : (next a).Answers u answer v := by
  unfold Answers at h hrun ⊢
  simpa only [Bind.bind, EStateM.bind, h] using hrun

end

theorem Answers.on {part : V → W} {put : V → W → V} {call : Call W ε α} {v : V} {u : W} {answer : Except ε α}
    (h : call.Answers (part v) answer u) : (call.on part put).Answers v answer (put v u) := by
  unfold Answers at h ⊢
  unfold Call.on
  rw [h]
  cases answer <;> rfl

theorem after_on (part : V → W) (put : V → W → V) (call : Call W ε α) (v : V) :
    (call.on part put).after v = put v (call.after (part v)) := by
  obtain ⟨answer, u, hrun⟩ := exists_answers call (part v)
  have hon : (call.on part put).Answers v answer (put v u) := hrun.on
  rw [hon.after_eq, hrun.after_eq]

theorem on_ok {part : V → W} {put : V → W → V} {call : Call W ε α} {v v' : V} {a : α}
    (h : call.on part put v = .ok a v') : ∃ w, call (part v) = .ok a w ∧ v' = put v w := by
  unfold Call.on at h
  cases hr : call (part v) with
  | ok a' w =>
    rw [hr] at h
    cases h
    exact ⟨w, rfl, rfl⟩
  | error e w =>
    rw [hr] at h
    contradiction

theorem on_error {part : V → W} {put : V → W → V} {call : Call W ε α} {v v' : V} {e : ε}
    (h : call.on part put v = .error e v') : ∃ w, call (part v) = .error e w ∧ v' = put v w := by
  unfold Call.on at h
  cases hr : call (part v) with
  | ok a w =>
    rw [hr] at h
    contradiction
  | error e' w =>
    rw [hr] at h
    cases h
    exact ⟨w, rfl, rfl⟩

theorem bind_ok {call : Call W ε α} {next : α → Call W ε γ} {w w' : W} {c : γ}
    (h : (call >>= next) w = .ok c w') : ∃ a u, call w = .ok a u ∧ next a u = .ok c w' := by
  simp only [bind, EStateM.bind] at h
  cases hr : call w with
  | ok a u =>
    rw [hr] at h
    exact ⟨a, u, rfl, h⟩
  | error e u =>
    rw [hr] at h
    contradiction

theorem bind_error {call : Call W ε α} {next : α → Call W ε γ} {w w' : W} {e : ε}
    (h : (call >>= next) w = .error e w') :
    call w = .error e w' ∨ ∃ a u, call w = .ok a u ∧ next a u = .error e w' := by
  simp only [bind, EStateM.bind] at h
  cases hr : call w with
  | ok a u =>
    rw [hr] at h
    exact Or.inr ⟨a, u, rfl, h⟩
  | error e' u =>
    rw [hr] at h
    cases h
    exact Or.inl rfl

/-- Every run of the call ends with the same `f` that it began with. -/
def Keeps (f : W → β) (call : Call W ε α) : Prop := ∀ w, f (call.after w) = f w

theorem keeps_pure (a : α) : Keeps f (pure a : Call W ε α) := fun _ => rfl

theorem keeps_throw (e : ε) : Keeps f (throw e : Call W ε α) := fun _ => rfl

theorem keeps_get : Keeps f (get : Call W ε W) := fun _ => rfl

theorem keeps_modifyGet {g : W → α × W} (h : ∀ w, f (g w).2 = f w) : Keeps f (modifyGet g : Call W ε α) := h

theorem keeps_modify {g : W → W} (h : ∀ w, f (g w) = f w) : Keeps f (modify g : Call W ε Unit) := h

theorem Keeps.of_answers {call : Call W ε α} (h : Keeps f call) {w u : W} {answer : Except ε α}
    (hrun : call.Answers w answer u) : f u = f w := by
  rw [← hrun.after_eq]
  exact h w

theorem Keeps.of_ok {call : Call W ε α} (h : Keeps f call) {w w' : W} {a : α} (hr : call w = .ok a w') :
    f w' = f w := by
  have hrun : call.Answers w (.ok a) w' := hr
  exact h.of_answers hrun

theorem Keeps.of_error {call : Call W ε α} (h : Keeps f call) {w w' : W} {e : ε} (hr : call w = .error e w') :
    f w' = f w := by
  have hrun : call.Answers w (.error e) w' := hr
  exact h.of_answers hrun

theorem keeps_bind {call : Call W ε α} {next : α → Call W ε γ} (h : Keeps f call) (hn : ∀ a, Keeps f (next a)) :
    Keeps f (call >>= next) := by
  intro w
  obtain ⟨answer, u, hrun⟩ := exists_answers call w
  cases answer with
  | error e =>
    rw [hrun.bind_error.after_eq]
    exact h.of_answers hrun
  | ok a =>
    obtain ⟨answer, v, hrest⟩ := exists_answers (next a) u
    rw [(hrun.bind hrest).after_eq]
    exact ((hn a).of_answers hrest).trans (h.of_answers hrun)

theorem get_bind (next : W → Call W ε γ) (w : W) : (get >>= next : Call W ε γ) w = next w w := rfl

end Call

/-! ## The client's actions -/

namespace Action

variable {W β δ ε α γ : Type} {f : W → β}

/-- Every run of the action ends with the same `f` of the surroundings that it began with. -/
def Keeps (f : W → β) (act : Action W ε α) : Prop := Call.Keeps (fun scene => f scene.world) act

theorem keeps_pure (a : α) : Keeps f (pure a : Action W ε α) := Call.keeps_pure a

theorem keeps_throw (e : ε) : Keeps f (throw e : Action W ε α) := Call.keeps_throw e

theorem keeps_note (e : Event) : Keeps f (note e : Action W ε Unit) := Call.keeps_modify fun _ => rfl

theorem answers_ask {call : Call W δ α} {answer : Except δ α} {scene : Scene W} {w : W}
    (h : call.Answers scene.world answer w) (wrap : δ → ε) :
    Call.Answers (ask call wrap) scene (answer.mapError wrap) { scene with world := w } := by
  unfold Call.Answers at h ⊢
  unfold ask
  rw [h]
  cases answer <;> rfl

theorem answers_note (e : Event) (scene : Scene W) :
    Call.Answers (note e : Action W ε Unit) scene (.ok ()) ⟨scene.world, scene.log ++ [e]⟩ := rfl

theorem keeps_ask {call : Call W δ α} (h : call.Keeps f) (wrap : δ → ε) : Keeps f (ask call wrap) := by
  intro scene
  obtain ⟨answer, w, hrun⟩ := Call.exists_answers call scene.world
  rw [(answers_ask hrun wrap).after_eq]
  exact h.of_answers hrun

theorem keeps_bind {act : Action W ε α} {next : α → Action W ε γ} (h : Keeps f act) (hn : ∀ a, Keeps f (next a)) :
    Keeps f (act >>= next) := Call.keeps_bind h hn

end Action

/-! ## Actions and their parts -/

/-- Holds of whatever is put together from parts that it holds of. -/
structure Action.Compositional {W : Type} (P : ∀ {α : Type}, Action W ReplicationError α → Prop) : Prop where
  pure : ∀ {α : Type} (a : α), P (Pure.pure a : Action W ReplicationError α)
  throw : ∀ {α : Type} (e : ReplicationError), P (throw e : Action W ReplicationError α)
  note : ∀ e : Event, P (Action.note e)
  bind : ∀ {α γ : Type} {act : Action W ReplicationError α} {next : α → Action W ReplicationError γ},
    P act → (∀ a, P (next a)) → P (act >>= next)

/-- It holds of every question to the schema. -/
structure SchemaAccess.Meets {W : Type} (P : ∀ {α : Type}, Action W ReplicationError α → Prop)
    (schema : SchemaAccess W) : Prop where
  base : P (Action.ask schema.base .schema)
  search : ∀ query, P (Action.ask (schema.search query) .schema)
  resolve : ∀ name, P (Action.ask (schema.resolve name) .schema)

/-- It holds of every call of a pull. -/
structure Peers.Meets {W : Type} (P : ∀ {α : Type}, Action W ReplicationError α → Prop) (peers : Peers W) : Prop where
  pull : ∀ h r target, P (Action.ask (peers.server.pull h r) (.connection target))
  schema : peers.schema.Meets P
  store : ∀ d, P (Action.ask (peers.store d) .apply)

namespace Action.Compositional

variable {W : Type} {P : ∀ {α : Type}, Action W ReplicationError α → Prop} (h : Compositional P)
include h

section

variable {schema : SchemaAccess W} (hschema : schema.Meets P)
include hschema

theorem collect (entries : List SearchEntry) : P (AttributeFilter.collect schema entries) := by
  induction entries with
  | nil => exact h.pure _
  | cons e es ih =>
    unfold AttributeFilter.collect
    split
    · exact h.throw _
    · exact h.bind (h.note _) fun _ => ih
    · exact h.bind (h.note _) fun _ => ih
    · exact h.bind (hschema.resolve _) fun _ => h.bind ih fun _ => h.pure _

theorem build : P (AttributeFilter.build schema) := by
  unfold AttributeFilter.build
  refine h.bind hschema.base fun base => ?_
  refine h.bind (hschema.search _) fun entries => ?_
  refine h.bind (h.collect hschema entries) fun ids => ?_
  exact h.bind (h.note _) fun _ => h.pure _

theorem wanted (options : PullOptions) : P (Session.wanted schema options) := by
  unfold Session.wanted
  split
  · exact h.bind (h.build hschema) fun _ => h.pure _
  · exact h.pure _

end

variable {peers : Peers W} (hpeers : peers.Meets P) (s : Session) (options : PullOptions)
include hpeers

theorem pullChunk (r : PullRequest) : P (Session.pullChunk peers s options r) := by
  unfold Session.pullChunk
  refine h.bind (hpeers.pull _ _ _) fun reply => ?_
  cases reply.chunk.breach? r.terms.cursor with
  | some breach => exact h.throw _
  | none =>
    refine h.bind (hpeers.store _) fun _ => ?_
    exact h.bind (h.note _) fun _ => h.pure _

theorem pullAll (calls : Nat) (r : PullRequest) (stats : PullStats) :
    P (Session.pullAll peers s options calls r stats) := by
  induction calls generalizing r stats with
  | zero => exact h.pure _
  | succ calls ih =>
    unfold Session.pullAll
    refine h.bind (h.pullChunk hpeers s options r) fun chunk => ?_
    split
    · exact ih _ _
    · exact h.pure _

theorem replicate (calls : Nat) (dn : String) (source destination : Guid) :
    P (Session.replicate peers s calls dn source destination options) := by
  unfold Session.replicate
  refine h.bind (h.wanted hpeers.schema options) fun set => ?_
  refine h.bind (h.note _) fun _ => ?_
  refine h.bind (h.pullAll hpeers s options calls _ _) fun stats? => ?_
  cases stats? with
  | none => exact h.pure _
  | some stats => exact h.bind (h.note _) fun _ => h.pure _

end Action.Compositional

/-! ## Pulls and what they keep -/

theorem Action.keeps_compositional {W β : Type} (f : W → β) : Compositional (Keeps f) where
  pure := keeps_pure
  throw := keeps_throw
  note := keeps_note
  bind := keeps_bind

/-- All that is asked of the schema keeps `f`. -/
structure SchemaAccess.Keeps {W β : Type} (f : W → β) (schema : SchemaAccess W) : Prop where
  base : schema.base.Keeps f
  search : ∀ query, (schema.search query).Keeps f
  resolve : ∀ name, (schema.resolve name).Keeps f

/-- All that a pull asks of its peers keeps `f`. -/
structure Peers.Keeps {W β : Type} (f : W → β) (peers : Peers W) : Prop where
  pull : ∀ h r, (peers.server.pull h r).Keeps f
  schema : peers.schema.Keeps f
  store : ∀ d, (peers.store d).Keeps f

theorem SchemaAccess.keeps_on {V W β : Type} {f : V → β} {part : V → W} {put : V → W → V}
    (h : ∀ v w, f (put v w) = f v) (schema : SchemaAccess W) : (schema.on part put).Keeps f where
  base v := by rw [SchemaAccess.on, Call.after_on, h]
  search query v := by rw [SchemaAccess.on, Call.after_on, h]
  resolve name v := by rw [SchemaAccess.on, Call.after_on, h]

section

variable {W β : Type} {f : W → β}

theorem SchemaAccess.Keeps.meets {schema : SchemaAccess W} (h : schema.Keeps f) :
    schema.Meets (Action.Keeps f) where
  base := Action.keeps_ask h.base _
  search query := Action.keeps_ask (h.search query) _
  resolve name := Action.keeps_ask (h.resolve name) _

theorem Peers.Keeps.meets {peers : Peers W} (h : peers.Keeps f) : peers.Meets (Action.Keeps f) where
  pull handle r _ := Action.keeps_ask (h.pull handle r) _
  schema := h.schema.meets
  store d := Action.keeps_ask (h.store d) _

namespace Session

theorem keeps_wanted {schema : SchemaAccess W} (h : schema.Keeps f) (options : PullOptions) :
    Action.Keeps f (wanted schema options) :=
  (Action.keeps_compositional f).wanted h.meets options

theorem keeps_replicate {peers : Peers W} (h : peers.Keeps f) (s : Session) (options : PullOptions) (calls : Nat)
    (dn : String) (source destination : Guid) :
    Action.Keeps f (replicate peers s calls dn source destination options) :=
  (Action.keeps_compositional f).replicate h.meets s options calls dn source destination

end Session

end

end DirectoryPull
