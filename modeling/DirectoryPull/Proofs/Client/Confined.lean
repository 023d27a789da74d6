import DirectoryPull.Proofs.Pull.Steps

/-!
# What the schema alone decides

An action that calls nothing but the schema comes to the same result next to any server and any store, and it leaves
both as they are. Making the request of a pull is such an action.
-/

namespace DirectoryPull

namespace Action

variable {σ τ δ ε α γ : Type}

/-- The schema decides on the result, and nothing else changes. -/
def Confined (act : Action (Surroundings σ τ) ε α) : Prop :=
  ∀ schema, ∃ result after, ∀ server store log, Yields act ⟨⟨server, store, schema⟩, log⟩ result ⟨server, store, after⟩

theorem confined_pure (a : α) : Confined (pure a : Action (Surroundings σ τ) ε α) := fun schema =>
  ⟨.ok a, schema, fun _ _ _ => yields_pure _ _⟩

theorem confined_throw (e : ε) : Confined (throw e : Action (Surroundings σ τ) ε α) := fun schema =>
  ⟨.error e, schema, fun _ _ log => ⟨log, rfl⟩⟩

theorem confined_note (event : Event) : Confined (note event : Action (Surroundings σ τ) ε Unit) := fun schema =>
  ⟨.ok (), schema, fun _ _ _ => yields_note _ _⟩

theorem confined_ask (call : Call τ δ α) (wrap : δ → ε) :
    Confined (ask (call.on Surroundings.schema fun (w : Surroundings σ τ) schema => { w with schema := schema })
      wrap) := by
  intro schema
  cases hcall : call schema with
  | ok a after =>
    refine ⟨.ok a, after, fun server store log => yields_ask ?_⟩
    simp only [Call.on, hcall]
  | error e after =>
    refine ⟨.error (wrap e), after, fun server store log => yields_ask_error ?_⟩
    simp only [Call.on, hcall]

theorem confined_bind {act : Action (Surroundings σ τ) ε α} {next : α → Action (Surroundings σ τ) ε γ}
    (h : Confined act) (hnext : ∀ a, Confined (next a)) : Confined (act >>= next) := by
  intro schema
  obtain ⟨result, between, hrun⟩ := h schema
  cases result with
  | error e => exact ⟨.error e, between, fun server store log => yields_bind_error (hrun server store log)⟩
  | ok a =>
    obtain ⟨result, after, hrest⟩ := hnext a between
    exact ⟨result, after, fun server store log => yields_bind (hrun server store log) (hrest server store)⟩

theorem confined_compositional : Compositional (W := Surroundings σ τ) Confined where
  pure := confined_pure
  throw := confined_throw
  note := confined_note
  bind := confined_bind

end Action

open DirectoryPull.Action

theorem Session.confined_wanted {σ τ : Type} (server : ServerAccess σ) (schema : SchemaAccess τ)
    (options : PullOptions) : Confined (wanted (Peers.apart server schema).schema options) := by
  have hschema : (Peers.apart server schema).schema.Meets Confined :=
    ⟨confined_ask _ _, fun _ => confined_ask _ _, fun _ => confined_ask _ _⟩
  exact confined_compositional.wanted hschema options

end DirectoryPull
