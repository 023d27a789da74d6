import DirectoryPull.Proofs.Pull.Steps

/-!
# What calls go by

A call goes by a view of its surroundings if nothing else has a part in its answer, or in what becomes of the view. In
a row of actions, those that keep a view may be left out as far as the others go by it.
-/

namespace DirectoryPull

namespace Call

variable {V W β γ ε α κ : Type} {f : W → β}

/-- Surroundings that look alike lead to the same answer, and look alike afterwards. -/
def GoesBy (f : W → β) (call : Call W ε α) : Prop :=
  ∀ w w', f w = f w' → ∃ answer u u', call.Answers w answer u ∧ call.Answers w' answer u' ∧ f u = f u'

theorem goesBy_pure (a : α) : GoesBy f (pure a : Call W ε α) := fun w w' h => ⟨.ok a, w, w', rfl, rfl, h⟩

theorem goesBy_throw (e : ε) : GoesBy f (throw e : Call W ε α) := fun w w' h => ⟨.error e, w, w', rfl, rfl, h⟩

theorem goesBy_modify {g : W → W} (hg : ∀ w w', f w = f w' → f (g w) = f (g w')) :
    GoesBy f (modify g : Call W ε Unit) :=
  fun w w' h => ⟨.ok (), g w, g w', rfl, rfl, hg w w' h⟩

theorem goesBy_bind {call : Call W ε α} {next : α → Call W ε γ} (h : GoesBy f call) (hn : ∀ a, GoesBy f (next a)) :
    GoesBy f (call >>= next) := by
  intro w w' hw
  obtain ⟨answer, u, u', hrun, hrun', hu⟩ := h w w' hw
  cases answer with
  | error e => exact ⟨.error e, u, u', hrun.bind_error, hrun'.bind_error, hu⟩
  | ok a =>
    obtain ⟨answer, v, v', hrest, hrest', hv⟩ := hn a u u' hu
    exact ⟨answer, v, v', hrun.bind hrest, hrun'.bind hrest', hv⟩

theorem goesBy_id (call : Call W ε α) : GoesBy id call := by
  rintro w w' h
  obtain rfl : w = w' := h
  obtain ⟨answer, u, hrun⟩ := exists_answers call w
  exact ⟨answer, u, u, hrun, hrun, rfl⟩

theorem GoesBy.on {part : V → W} {put : V → W → V} {call : Call W ε α} {F : V → κ} (h : GoesBy f call)
    (hpart : ∀ v v', F v = F v' → f (part v) = f (part v'))
    (hput : ∀ v v' u u', F v = F v' → f u = f u' → F (put v u) = F (put v' u')) : GoesBy F (call.on part put) := by
  intro v v' hv
  obtain ⟨answer, u, u', hrun, hrun', hu⟩ := h (part v) (part v') (hpart v v' hv)
  exact ⟨answer, put v u, put v' u', hrun.on, hrun'.on, hput v v' u u' hv hu⟩

theorem Keeps.on {part : V → W} {put : V → W → V} {call : Call W ε α} {F : V → κ} (h : call.Keeps f)
    (hput : ∀ v u, f u = f (part v) → F (put v u) = F v) : (call.on part put).Keeps F := by
  intro v
  rw [after_on]
  exact hput v _ (h (part v))

end Call

/-! ## The client's actions -/

namespace Action

variable {W β δ ε α γ : Type} {f : W → β}

def GoesBy (f : W → β) (act : Action W ε α) : Prop := Call.GoesBy (fun scene => f scene.world) act

theorem goesBy_note (e : Event) : GoesBy f (note e : Action W ε Unit) := Call.goesBy_modify fun _ _ h => h

theorem goesBy_ask {call : Call W δ α} (h : call.GoesBy f) (wrap : δ → ε) : GoesBy f (ask call wrap) := by
  intro scene scene' hscene
  obtain ⟨answer, w, w', hrun, hrun', hw⟩ := h _ _ hscene
  exact ⟨_, _, _, answers_ask hrun wrap, answers_ask hrun' wrap, hw⟩

/-- The action goes by `f` and leaves `g` alone. -/
structure Minds {γ : Type} (f : W → β) (g : W → γ) (act : Action W ε α) : Prop where
  goesBy : GoesBy f act
  keeps : Keeps g act

theorem Minds.ask {κ : Type} {g : W → κ} {call : Call W δ α} (h : call.GoesBy f) (hg : call.Keeps g)
    (wrap : δ → ε) : Minds f g (ask call wrap) :=
  ⟨goesBy_ask h wrap, keeps_ask hg wrap⟩

theorem minds_compositional {κ : Type} (f : W → β) (g : W → κ) : Compositional (Minds f g) where
  pure a := ⟨Call.goesBy_pure a, keeps_pure a⟩
  throw e := ⟨Call.goesBy_throw e, keeps_throw e⟩
  note e := ⟨goesBy_note e, keeps_note e⟩
  bind h hn := ⟨Call.goesBy_bind h.goesBy fun a => (hn a).goesBy, keeps_bind h.keeps fun a => (hn a).keeps⟩

/-! ## One action after the other -/

section

variable {T : Type} {R : T → Type}

/-- Does everything, whatever fails, and tells what each came to. -/
def doEach (act : (t : T) → Action W ε (R t)) : List T → Action W ε (List ((t : T) × Except ε (R t)))
  | [] => return []
  | t :: ts => do
    let result ← (act t).attempt
    return ⟨t, result⟩ :: (← doEach act ts)

variable {act : (t : T) → Action W ε (R t)} {t : T} {ts : List T} {scene between scene' : Scene W}

theorem answers_doEach_cons {result : Except ε (R t)} {told : List ((t : T) × Except ε (R t))}
    (h : Call.Answers (act t) scene result between) (hrest : Call.Answers (doEach act ts) between (.ok told) scene') :
    Call.Answers (doEach act (t :: ts)) scene (.ok (⟨t, result⟩ :: told)) scene' := by
  unfold doEach
  exact (answers_attempt h).bind (hrest.bind rfl)

/-- What keeps a view may be left out, if the rest goes by the view. -/
theorem doEach_filter (chosen : T → Bool) (hchosen : ∀ t, chosen t = true → GoesBy f (act t))
    (hother : ∀ t, chosen t = false → Keeps f (act t)) (ts : List T) (scene alone : Scene W)
    (h : f scene.world = f alone.world) :
    ∃ told after alone',
      Call.Answers (doEach act ts) scene (.ok told) after ∧ told.map (·.1) = ts ∧
      Call.Answers (doEach act (ts.filter chosen)) alone (.ok (told.filter (chosen ·.1))) alone' ∧
      f after.world = f alone'.world := by
  -- The two runs go on from scenes that look alike, whatever else and whatever logs they have.
  induction ts generalizing scene alone with
  | nil => exact ⟨[], scene, alone, rfl, rfl, rfl, h⟩
  | cons t ts ih =>
    cases hc : chosen t with
    | true =>
      obtain ⟨result, between, between', hrun, hrun', hbetween⟩ := hchosen t hc scene alone h
      obtain ⟨told, after, alone', hall, htold, hfew, hafter⟩ := ih between between' hbetween
      refine ⟨_, after, alone', answers_doEach_cons hrun hall, congrArg (t :: ·) htold, ?_, hafter⟩
      simp only [List.filter_cons, hc, if_true]
      exact answers_doEach_cons hrun' hfew
    | false =>
      -- Only the full run takes this step, and it stays out of view.
      obtain ⟨result, between, hrun⟩ := Call.exists_answers (act t) scene
      have hbetween : f between.world = f alone.world := (Call.Keeps.of_answers (hother t hc) hrun).trans h
      obtain ⟨told, after, alone', hall, htold, hfew, hafter⟩ := ih between alone hbetween
      refine ⟨_, after, alone', answers_doEach_cons hrun hall, congrArg (t :: ·) htold, ?_, hafter⟩
      simpa only [List.filter_cons, hc, Bool.false_eq_true, if_false] using hfew

end

end Action

end DirectoryPull
