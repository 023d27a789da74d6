import DirectoryPull.Client.Maintenance
import DirectoryPull.Proofs.Pull.Steps

/-!
# The client under watch

The client meets the world in calls and their answers. A watched collaborator does what it always does and besides
takes down each exchange. Under watch an action comes to the same result, and its exchanges can be accounted for one
step after the other.
-/

namespace DirectoryPull

/-- A call of the client and its answer. -/
inductive Exchange
  | connect (binding : Binding) (credentials : Credentials) (answer : Except TransportError Unit)
  | bind (interface : Guid) (info : BindInfo) (answer : Except TransportError (Handle × BindInfo))
  | pull (handle : Handle) (request : PullRequest) (answer : Except TransportError PullReply)
  | sync (handle : Handle) (request : SyncRequest) (answer : Except TransportError Unit)
  | remove (handle : Handle) (request : RemovalRequest) (answer : Except TransportError RemovalResult)
  | base (answer : Except SchemaError String)
  | search (query : SearchQuery) (answer : Except SchemaError (List SearchEntry))
  | resolve (name : String) (answer : Except SchemaError AttributeId)
  | store (delivery : Delivery) (answer : Except ApplyError Unit)

/-- Surroundings and the exchanges with them, oldest first. -/
structure Watched (W : Type) where
  world : W
  seen : List Exchange

/-! ## Watched collaborators -/

section

variable {W ε α : Type}

/-- The same call, which takes down its exchange. -/
def Call.watched (call : Call W ε α) (exchange : Except ε α → Exchange) : Call (Watched W) ε α := fun t =>
  match call t.world with
  | .ok a w => .ok a ⟨w, t.seen ++ [exchange (.ok a)]⟩
  | .error e w => .error e ⟨w, t.seen ++ [exchange (.error e)]⟩

def ServerAccess.watched (p : ServerAccess W) : ServerAccess (Watched W) where
  bind interface info := (p.bind interface info).watched (.bind interface info)
  pull handle request := (p.pull handle request).watched (.pull handle request)
  sync handle request := (p.sync handle request).watched (.sync handle request)
  remove handle request := (p.remove handle request).watched (.remove handle request)

def SchemaAccess.watched (p : SchemaAccess W) : SchemaAccess (Watched W) where
  base := p.base.watched .base
  search query := (p.search query).watched (.search query)
  resolve name := (p.resolve name).watched (.resolve name)

def Connector.watched (connector : Connector W) : Connector (Watched W) := fun binding credentials =>
  (connector binding credentials).watched (.connect binding credentials)

def Peers.watched (p : Peers W) : Peers (Watched W) where
  server := p.server.watched
  schema := p.schema.watched
  store delivery := (p.store delivery).watched (.store delivery)

end

theorem Call.keeps_watched {W ε α β : Type} {f : Watched W → β} {call : Call W ε α} {exchange : Except ε α → Exchange}
    (hok : ∀ w seen a w', call w = .ok a w' → f ⟨w', seen ++ [exchange (.ok a)]⟩ = f ⟨w, seen⟩)
    (herror : ∀ w seen e w', call w = .error e w' → f ⟨w', seen ++ [exchange (.error e)]⟩ = f ⟨w, seen⟩) :
    (call.watched exchange).Keeps f := by
  intro t
  unfold after watched
  cases hcall : call t.world with
  | ok a w => exact hok t.world t.seen a w hcall
  | error e w => exact herror t.world t.seen e w hcall

theorem Call.Answers.watched {W ε α : Type} {call : Call W ε α} {w w' : W} {answer : Except ε α}
    (h : call.Answers w answer w') (exchange : Except ε α → Exchange) (seen : List Exchange) :
    (call.watched exchange).Answers ⟨w, seen⟩ answer ⟨w', seen ++ [exchange answer]⟩ := by
  unfold Answers Call.watched at *
  rw [h]
  cases answer <;> rfl

/-! ## The log -/

/-- An event as it is written. -/
structure Line where
  severity : Severity
  message : String
  data : List (String × Event.Datum)

def Event.line (e : Event) : Line := ⟨e.severity, e.message, e.data⟩

/-! ## Accounts of exchanges -/

namespace Action

variable {W ε δ α γ : Type}

/-- From some surroundings the watched action does what the action does, and its exchanges, its result and what it
leaves behind fit together. -/
def ShowsFrom (w : W) (act : Action W ε α) (watched : Action (Watched W) ε α)
    (post : List Exchange → Except ε α → W → Prop) : Prop :=
  ∃ es result w', (∀ log, Yields act ⟨w, log⟩ result w') ∧
    (∀ log seen, Yields watched ⟨⟨w, seen⟩, log⟩ result ⟨w', seen ++ es⟩) ∧ post es result w'

section

variable {act : Action W ε α} {watched : Action (Watched W) ε α} {post : List Exchange → Except ε α → W → Prop}
  {w w' : W}

theorem ShowsFrom.mono {weaker : List Exchange → Except ε α → W → Prop} (h : ShowsFrom w act watched post)
    (hle : ∀ es result w', post es result w' → weaker es result w') : ShowsFrom w act watched weaker := by
  obtain ⟨es, result, w', hrun, hseen, hpost⟩ := h
  exact ⟨es, result, w', hrun, hseen, hle es result w' hpost⟩

theorem ShowsFrom.told (h : ShowsFrom w act watched post) :
    ShowsFrom w act watched fun es result w' =>
      post es result w' ∧ ∀ log seen, Yields watched ⟨⟨w, seen⟩, log⟩ result ⟨w', seen ++ es⟩ := by
  obtain ⟨es, result, w', hrun, hseen, hpost⟩ := h
  exact ⟨es, result, w', hrun, hseen, hpost, hseen⟩

theorem showsFrom_pure {a : α} (h : post [] (.ok a) w) : ShowsFrom w (pure a : Action W ε α) (pure a) post := by
  refine ⟨[], .ok a, w, fun log => yields_pure _ _, fun log seen => ?_, h⟩
  rw [List.append_nil]
  exact yields_pure _ _

theorem showsFrom_throw {e : ε} (h : post [] (.error e) w) : ShowsFrom w (throw e : Action W ε α) (throw e) post := by
  refine ⟨[], .error e, w, fun log => ⟨log, rfl⟩, fun log seen => ?_, h⟩
  rw [List.append_nil]
  exact ⟨log, rfl⟩

theorem showsFrom_note {post : List Exchange → Except ε Unit → W → Prop} (event : Event) (h : post [] (.ok ()) w) :
    ShowsFrom w (note event : Action W ε Unit) (note event) post := by
  refine ⟨[], .ok (), w, fun log => yields_note _ _, fun log seen => ?_, h⟩
  rw [List.append_nil]
  exact yields_note _ _

theorem showsFrom_ask {call : Call W δ α} {wrap : δ → ε} {exchange : Except δ α → Exchange}
    (hok : ∀ a w', call w = .ok a w' → post [exchange (.ok a)] (.ok a) w')
    (herror : ∀ e w', call w = .error e w' → post [exchange (.error e)] (.error (wrap e)) w') :
    ShowsFrom w (ask call wrap) (ask (call.watched exchange) wrap) post := by
  cases hcall : call w with
  | ok a w' =>
    refine ⟨_, _, w', fun log => yields_ask hcall, fun log seen => yields_ask ?_, hok a w' hcall⟩
    simp only [Call.watched, hcall]
  | error e w' =>
    refine ⟨_, _, w', fun log => yields_ask_error hcall, fun log seen => yields_ask_error ?_, herror e w' hcall⟩
    simp only [Call.watched, hcall]

theorem ShowsFrom.bind {next : α → Action W ε γ} {watchedNext : α → Action (Watched W) ε γ}
    {final : List Exchange → Except ε γ → W → Prop} (h : ShowsFrom w act watched post)
    (hok : ∀ a es w', post es (.ok a) w' →
      ShowsFrom w' (next a) (watchedNext a) fun es' result w'' => final (es ++ es') result w'')
    (herror : ∀ e es w', post es (.error e) w' → final es (.error e) w') :
    ShowsFrom w (act >>= next) (watched >>= watchedNext) final := by
  obtain ⟨es, result, w', hrun, hseen, hpost⟩ := h
  cases result with
  | error e =>
    exact ⟨es, .error e, w', fun log => yields_bind_error (hrun log),
      fun log seen => yields_bind_error (hseen log seen), herror e es w' hpost⟩
  | ok a =>
    obtain ⟨es', result, w'', hrun', hseen', hfinal⟩ := hok a es w' hpost
    refine ⟨es ++ es', result, w'', fun log => yields_bind (hrun log) hrun', fun log seen => ?_, hfinal⟩
    refine yields_bind (hseen log seen) fun log' => ?_
    rw [← List.append_assoc]
    exact hseen' log' (seen ++ es)

theorem showsFrom_note_bind {next : Action W ε γ} {watchedNext : Action (Watched W) ε γ}
    {final : List Exchange → Except ε γ → W → Prop} (event : Event) (h : ShowsFrom w next watchedNext final) :
    ShowsFrom w (note event >>= fun _ => next) (note event >>= fun _ => watchedNext) final := by
  obtain ⟨es, result, w', hrun, hseen, hfinal⟩ := h
  exact ⟨es, result, w', fun log => yields_bind (yields_note _ _) hrun,
    fun log seen => yields_bind (yields_note _ _) fun log' => hseen log' seen, hfinal⟩

theorem showsFrom_ask_bind {call : Call W δ α} {wrap : δ → ε} {exchange : Except δ α → Exchange}
    {next : α → Action W ε γ} {watchedNext : α → Action (Watched W) ε γ} {final : List Exchange → Except ε γ → W → Prop}
    (hok : ∀ a w', call w = .ok a w' →
      ShowsFrom w' (next a) (watchedNext a) fun es result w'' => final (exchange (.ok a) :: es) result w'')
    (herror : ∀ e w', call w = .error e w' → final [exchange (.error e)] (.error (wrap e)) w') :
    ShowsFrom w (ask call wrap >>= next) (ask (call.watched exchange) wrap >>= watchedNext) final := by
  have hcall : ShowsFrom w (ask call wrap) (ask (call.watched exchange) wrap) fun es result w' =>
      (∀ a, result = .ok a → call w = .ok a w' ∧ es = [exchange (.ok a)]) ∧
        ∀ e, result = .error e → final es (.error e) w' := by
    refine showsFrom_ask (fun a w' hcall => ⟨?_, by simp⟩) fun e w' hcall => ⟨by simp, ?_⟩
    · rintro a' ha
      obtain rfl := Except.ok.inj ha
      exact ⟨hcall, rfl⟩
    · rintro e' he
      obtain rfl := Except.error.inj he
      exact herror e w' hcall
  refine hcall.bind (fun a es w' hes => ?_) fun e es w' hes => hes.2 e rfl
  obtain ⟨hcall, rfl⟩ := hes.1 a rfl
  exact hok a w' hcall

end

/-- The watched action does what the action does, and its exchanges and its result fit together. -/
def Shows (act : Action W ε α) (watched : Action (Watched W) ε α) (post : List Exchange → Except ε α → Prop) : Prop :=
  ∀ w, ∃ es result w', (∀ log, Yields act ⟨w, log⟩ result w') ∧
    (∀ log seen, Yields watched ⟨⟨w, seen⟩, log⟩ result ⟨w', seen ++ es⟩) ∧ post es result

variable {act : Action W ε α} {watched : Action (Watched W) ε α} {post : List Exchange → Except ε α → Prop}

theorem shows_iff : Shows act watched post ↔ ∀ w, ShowsFrom w act watched fun es result _ => post es result := Iff.rfl

theorem Shows.mono {weaker : List Exchange → Except ε α → Prop} (h : Shows act watched post)
    (hle : ∀ es result, post es result → weaker es result) : Shows act watched weaker :=
  shows_iff.mpr fun w => (shows_iff.mp h w).mono fun es result _ => hle es result

theorem shows_pure {a : α} (h : post [] (.ok a)) : Shows (pure a : Action W ε α) (pure a) post :=
  shows_iff.mpr fun _ => showsFrom_pure h

theorem shows_throw {e : ε} (h : post [] (.error e)) : Shows (throw e : Action W ε α) (throw e) post :=
  shows_iff.mpr fun _ => showsFrom_throw h

theorem shows_note {post : List Exchange → Except ε Unit → Prop} (event : Event) (h : post [] (.ok ())) :
    Shows (note event : Action W ε Unit) (note event) post :=
  shows_iff.mpr fun _ => showsFrom_note event h

theorem shows_ask {call : Call W δ α} {wrap : δ → ε} {exchange : Except δ α → Exchange}
    (hok : ∀ a, post [exchange (.ok a)] (.ok a)) (herror : ∀ e, post [exchange (.error e)] (.error (wrap e))) :
    Shows (ask call wrap) (ask (call.watched exchange) wrap) post :=
  shows_iff.mpr fun _ => showsFrom_ask (fun a _ _ => hok a) fun e _ _ => herror e

theorem shows_bind {next : α → Action W ε γ} {watchedNext : α → Action (Watched W) ε γ}
    {final : List Exchange → Except ε γ → Prop} (h : Shows act watched post)
    (hok : ∀ a es, post es (.ok a) → Shows (next a) (watchedNext a) fun es' result => final (es ++ es') result)
    (herror : ∀ e es, post es (.error e) → final es (.error e)) :
    Shows (act >>= next) (watched >>= watchedNext) final :=
  shows_iff.mpr fun w => (shows_iff.mp h w).bind (fun a es w' hes => shows_iff.mp (hok a es hes) w')
    fun e es _ hes => herror e es hes

theorem shows_ask_bind {call : Call W δ α} {wrap : δ → ε} {exchange : Except δ α → Exchange} {next : α → Action W ε γ}
    {watchedNext : α → Action (Watched W) ε γ} {final : List Exchange → Except ε γ → Prop}
    (hok : ∀ a, Shows (next a) (watchedNext a) fun es result => final (exchange (.ok a) :: es) result)
    (herror : ∀ e, final [exchange (.error e)] (.error (wrap e))) :
    Shows (ask call wrap >>= next) (ask (call.watched exchange) wrap >>= watchedNext) final :=
  shows_iff.mpr fun _ => showsFrom_ask_bind (fun a w' _ => shows_iff.mp (hok a) w') fun e _ _ => herror e

theorem shows_attempt (h : Shows act watched post) :
    Shows (act.attempt : Action W δ (Except ε α)) watched.attempt fun es result =>
      ∃ attempted, result = .ok attempted ∧ post es attempted := by
  intro w
  obtain ⟨es, result, w', hrun, hseen, hpost⟩ := h w
  exact ⟨es, .ok result, w', fun log => yields_attempt (hrun log), fun log seen => yields_attempt (hseen log seen),
    result, rfl, hpost⟩

/-! ## Accounts of the log -/

/-- Watched or not, the action adds the same to the log, and its exchanges, the lines of the log and its result fit
together. -/
def Traces (act : Action W ε α) (watched : Action (Watched W) ε α)
    (post : List Exchange → List Line → Except ε α → Prop) : Prop :=
  ∀ w, ∃ es events result w', (∀ log, Call.Answers act ⟨w, log⟩ result ⟨w', log ++ events⟩) ∧
    (∀ log seen, Call.Answers watched ⟨⟨w, seen⟩, log⟩ result ⟨⟨w', seen ++ es⟩, log ++ events⟩) ∧
    post es (events.map Event.line) result

section

variable {post : List Exchange → List Line → Except ε α → Prop}

theorem Traces.mono {weaker : List Exchange → List Line → Except ε α → Prop} (h : Traces act watched post)
    (hle : ∀ es lines result, post es lines result → weaker es lines result) : Traces act watched weaker := by
  intro w
  obtain ⟨es, events, result, w', hrun, hseen, hpost⟩ := h w
  exact ⟨es, events, result, w', hrun, hseen, hle es _ result hpost⟩

theorem Traces.shows (h : Traces act watched post) :
    Shows act watched fun es result => ∃ lines, post es lines result := by
  intro w
  obtain ⟨es, events, result, w', hrun, hseen, hpost⟩ := h w
  exact ⟨es, result, w', fun log => .of_answers (hrun log), fun log seen => .of_answers (hseen log seen), _, hpost⟩

theorem traces_pure {a : α} (h : post [] [] (.ok a)) : Traces (pure a : Action W ε α) (pure a) post := by
  intro w
  refine ⟨[], [], .ok a, w, fun log => ?_, fun log seen => ?_, h⟩
  · rw [List.append_nil]
    exact Call.answers_pure _ _
  · rw [List.append_nil, List.append_nil]
    exact Call.answers_pure _ _

theorem traces_throw {e : ε} (h : post [] [] (.error e)) : Traces (throw e : Action W ε α) (throw e) post := by
  intro w
  refine ⟨[], [], .error e, w, fun log => ?_, fun log seen => ?_, h⟩
  · rw [List.append_nil]
    rfl
  · rw [List.append_nil, List.append_nil]
    rfl

theorem traces_ask {call : Call W δ α} {wrap : δ → ε} {exchange : Except δ α → Exchange}
    (h : ∀ answer, post [exchange answer] [] (answer.mapError wrap)) :
    Traces (ask call wrap) (ask (call.watched exchange) wrap) post := by
  intro w
  obtain ⟨answer, w', hcall⟩ := Call.exists_answers call w
  refine ⟨[exchange answer], [], answer.mapError wrap, w', fun log => ?_, fun log seen => ?_, h answer⟩
  · rw [List.append_nil]
    exact answers_ask hcall wrap
  · rw [List.append_nil]
    exact answers_ask (hcall.watched exchange seen) wrap

theorem Traces.bind {next : α → Action W ε γ} {watchedNext : α → Action (Watched W) ε γ}
    {final : List Exchange → List Line → Except ε γ → Prop} (h : Traces act watched post)
    (hok : ∀ a es lines, post es lines (.ok a) →
      Traces (next a) (watchedNext a) fun es' lines' result => final (es ++ es') (lines ++ lines') result)
    (herror : ∀ e es lines, post es lines (.error e) → final es lines (.error e)) :
    Traces (act >>= next) (watched >>= watchedNext) final := by
  intro w
  obtain ⟨es, events, result, w', hrun, hseen, hpost⟩ := h w
  cases result with
  | error e =>
    exact ⟨es, events, .error e, w', fun log => (hrun log).bind_error, fun log seen => (hseen log seen).bind_error,
      herror e es _ hpost⟩
  | ok a =>
    obtain ⟨es', events', result, w'', hrun', hseen', hfinal⟩ := hok a es _ hpost w'
    refine ⟨es ++ es', events ++ events', result, w'', fun log => ?_, fun log seen => ?_, ?_⟩
    · rw [← List.append_assoc]
      exact (hrun log).bind (hrun' _)
    · rw [← List.append_assoc, ← List.append_assoc]
      exact (hseen log seen).bind (hseen' _ _)
    · rwa [List.map_append]

theorem traces_note_bind {next : Action W ε γ} {watchedNext : Action (Watched W) ε γ}
    {final : List Exchange → List Line → Except ε γ → Prop} (event : Event)
    (h : Traces next watchedNext fun es lines result => final es (event.line :: lines) result) :
    Traces (note event >>= fun _ => next) (note event >>= fun _ => watchedNext) final := by
  intro w
  obtain ⟨es, events, result, w', hrun, hseen, hfinal⟩ := h w
  refine ⟨es, event :: events, result, w', fun log => ?_, fun log seen => ?_, hfinal⟩
  · rw [List.append_cons]
    exact (answers_note event _).bind (hrun _)
  · rw [List.append_cons]
    exact (answers_note event _).bind (hseen _ seen)

theorem traces_ask_bind {call : Call W δ α} {wrap : δ → ε} {exchange : Except δ α → Exchange} {next : α → Action W ε γ}
    {watchedNext : α → Action (Watched W) ε γ} {final : List Exchange → List Line → Except ε γ → Prop}
    (hok : ∀ a, Traces (next a) (watchedNext a) fun es lines result => final (exchange (.ok a) :: es) lines result)
    (herror : ∀ e, final [exchange (.error e)] [] (.error (wrap e))) :
    Traces (ask call wrap >>= next) (ask (call.watched exchange) wrap >>= watchedNext) final := by
  have hcall : Traces (ask call wrap) (ask (call.watched exchange) wrap) fun es lines result =>
      ∃ answer, es = [exchange answer] ∧ lines = [] ∧ result = answer.mapError wrap :=
    traces_ask fun answer => ⟨answer, rfl, rfl, rfl⟩
  apply hcall.bind
  · rintro a es lines ⟨answer, rfl, rfl, hresult⟩
    cases answer with
    | error e => contradiction
    | ok a' =>
      obtain rfl := Except.ok.inj hresult
      exact hok a
  · rintro e es lines ⟨answer, rfl, rfl, hresult⟩
    cases answer with
    | error e' =>
      obtain rfl := Except.error.inj hresult
      exact herror e'
    | ok => contradiction

end

end Action

end DirectoryPull
