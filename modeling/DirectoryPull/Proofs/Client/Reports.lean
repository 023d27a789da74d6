import DirectoryPull.Proofs.Client.AttributeFilter
import DirectoryPull.Proofs.Pull.Turns

/-!
# Accounts of failures

Every exchange of the client either goes well or stands for one error. An action accounts for its result if that
error is what it ends with, and nothing comes after it. Such accounts add up along an action.
-/

namespace DirectoryPull

open DirectoryPull.Action

/-! ## What counts as a failure -/

namespace Exchange

/-- The error that an operation on a target has to return because of an exchange: its call failed, or its reply breaks
a rule of the protocol. -/
def failure? (target : String) : Exchange → Option ReplicationError
  | connect _ _ (.error e) | bind _ _ (.error e) | pull _ _ (.error e) => some (.connection target e)
  | pull _ r (.ok reply) =>
    if reply.chunk.count ≠ 0 ∧ reply.chunk.chain = [] then some (.contract (.missingObjects reply.chunk.count))
    else if ¬ r.terms.cursor ≤ reply.chunk.newCursor then
      some (.contract (.cursorMovedBack r.terms.cursor reply.chunk.newCursor))
    else none
  | sync _ _ (.error e) => some (.operation "DsReplicaSync" e)
  | remove _ _ (.error e) => some (.operation "DsRemoveDSServer" e)
  | base (.error e) | search _ (.error e) | resolve _ (.error e) => some (.schema e)
  | store _ (.error e) => some (.apply e)
  | _ => none

/-- The connector or the server returned an error. -/
def Refused : Exchange → Prop
  | connect _ _ answer => ∃ e, answer = .error e
  | bind _ _ answer => ∃ e, answer = .error e
  | pull _ _ answer => ∃ e, answer = .error e
  | sync _ _ answer => ∃ e, answer = .error e
  | remove _ _ answer => ∃ e, answer = .error e
  | _ => False

def IsPull : Exchange → Prop
  | pull _ _ _ => True
  | _ => False

def IsSchema : Exchange → Prop
  | base _ | search _ _ | resolve _ _ => True
  | _ => False

theorem IsSchema.not_pull {x : Exchange} (h : x.IsSchema) : ¬ x.IsPull := by
  cases x with
  | base | search | resolve => exact not_false
  | _ => exact h.elim

theorem failure?_pull (target : String) (h : Handle) (r : PullRequest) (reply : PullReply) :
    failure? target (.pull h r (.ok reply)) = (reply.chunk.breach? r.terms.cursor).map .contract := by
  rw [failure?]
  by_cases hmissing : reply.chunk.count ≠ 0 ∧ reply.chunk.chain = []
  · rw [if_pos hmissing, Chunk.breach_missing hmissing]
    rfl
  by_cases hforward : r.terms.cursor ≤ reply.chunk.newCursor
  · rw [if_neg hmissing, if_neg (not_not_intro hforward), Chunk.breach_none hmissing hforward]
    rfl
  · rw [if_neg hmissing, if_pos hforward, Chunk.breach_back hmissing hforward]
    rfl

end Exchange

/-! ## Accounts -/

section

variable {α γ δ : Type}

/-- How exchanges lead to a result: all of them went well, or the last one failed with the error of the result, or all
went well and the error is one of the client's own. -/
inductive Ends (target : String) (own : ReplicationError → Prop) : List Exchange → Except ReplicationError α → Prop
  | well {es : List Exchange} {a : α} (hwell : ∀ x ∈ es, x.failure? target = none) : Ends target own es (.ok a)
  | failed {es : List Exchange} {x : Exchange} {e : ReplicationError} (hwell : ∀ y ∈ es, y.failure? target = none)
      (hfail : x.failure? target = some e) : Ends target own (es ++ [x]) (.error e)
  | own {es : List Exchange} {e : ReplicationError} (hwell : ∀ x ∈ es, x.failure? target = none) (hown : own e) :
    Ends target own es (.error e)

/-- All exchanges are of one kind besides. -/
structure Accounts (target : String) (kind : Exchange → Prop) (own : ReplicationError → Prop) (es : List Exchange)
    (result : Except ReplicationError α) : Prop where
  kinds : ∀ x ∈ es, kind x
  ends : Ends target own es result

variable {target : String} {kind : Exchange → Prop} {own : ReplicationError → Prop}

theorem Ends.append {es es' : List Exchange} {result : Except ReplicationError α}
    (hwell : ∀ x ∈ es, x.failure? target = none) (h : Ends target own es' result) :
    Ends target own (es ++ es') result := by
  cases h with
  | well hwell' => exact .well (List.forall_mem_append.mpr ⟨hwell, hwell'⟩)
  | failed hwell' hfail =>
    rw [← List.append_assoc]
    exact .failed (List.forall_mem_append.mpr ⟨hwell, hwell'⟩) hfail
  | own hwell' hown => exact .own (List.forall_mem_append.mpr ⟨hwell, hwell'⟩) hown

theorem Ends.wells {es : List Exchange} {a : α} (h : Ends target own es (.ok a)) :
    ∀ x ∈ es, x.failure? target = none := by
  cases h with
  | well hwell => exact hwell

theorem Ends.mono {es : List Exchange} {result : Except ReplicationError α} {own' : ReplicationError → Prop}
    (h : Ends target own es result) (hown : ∀ e, own e → own' e) : Ends target own' es result := by
  cases h with
  | well hwell => exact .well hwell
  | failed hwell hfail => exact .failed hwell hfail
  | own hwell he => exact .own hwell (hown _ he)

theorem Ends.error {es : List Exchange} {e : ReplicationError} (h : Ends target own es (.error e : Except _ α)) :
    Ends target own es (.error e : Except _ γ) := by
  cases h with
  | failed hwell hfail => exact .failed hwell hfail
  | own hwell hown => exact .own hwell hown

theorem Accounts.error {es : List Exchange} {e : ReplicationError}
    (h : Accounts target kind own es (.error e : Except _ α)) :
    Accounts target kind own es (.error e : Except _ γ) := ⟨h.kinds, h.ends.error⟩

theorem Accounts.append {es es' : List Exchange} {a : α} {result : Except ReplicationError γ}
    (h : Accounts target kind own es (.ok a)) (h' : Accounts target kind own es' result) :
    Accounts target kind own (es ++ es') result :=
  ⟨List.forall_mem_append.mpr ⟨h.kinds, h'.kinds⟩, h'.ends.append h.ends.wells⟩

theorem accounts_nil {a : α} : Accounts target kind own [] (.ok a) := ⟨by simp, .well (by simp)⟩

variable {W : Type}

/-- The action accounts for its result by its exchanges. -/
def Reports (target : String) (kind : Exchange → Prop) (own : ReplicationError → Prop)
    (act : Action W ReplicationError α) (watched : Action (Watched W) ReplicationError α) : Prop :=
  Shows act watched (Accounts target kind own)

theorem reports_pure (a : α) : Reports target kind own (pure a : Action W ReplicationError α) (pure a) :=
  shows_pure accounts_nil

theorem reports_note (event : Event) : Reports target kind own (note event : Action W ReplicationError Unit)
    (note event) :=
  shows_note event accounts_nil

theorem reports_throw {e : ReplicationError} (h : own e) :
    Reports target kind own (throw e : Action W ReplicationError α) (throw e) :=
  shows_throw ⟨by simp, .own (by simp) h⟩

theorem reports_ask {call : Call W δ α} {wrap : δ → ReplicationError} {exchange : Except δ α → Exchange}
    (hkind : ∀ answer, kind (exchange answer)) (hok : ∀ a, (exchange (.ok a)).failure? target = none)
    (herror : ∀ e, (exchange (.error e)).failure? target = some (wrap e)) :
    Reports target kind own (ask call wrap) (ask (call.watched exchange) wrap) :=
  shows_ask (fun a => ⟨by simpa using hkind _, .well (by simpa using hok a)⟩)
    fun e => ⟨by simpa using hkind _, .failed (List.forall_mem_nil _) (herror e)⟩

theorem reports_bind {act : Action W ReplicationError α} {watched : Action (Watched W) ReplicationError α}
    {next : α → Action W ReplicationError γ} {watchedNext : α → Action (Watched W) ReplicationError γ}
    (h : Reports target kind own act watched) (hnext : ∀ a, Reports target kind own (next a) (watchedNext a)) :
    Reports target kind own (act >>= next) (watched >>= watchedNext) := by
  refine shows_bind h (fun a es hes => ?_) fun e es hes => hes.error
  exact (hnext a).mono fun es' result hes' => hes.append hes'

end

/-! ## Failures in a row of exchanges -/

theorem Exchange.failure?_kind {target : String} {x : Exchange} {e : ReplicationError}
    (h : x.failure? target = some e) :
    (e.isRetryable = true ↔ x.Refused) ∧ (∀ m, e ≠ .invalidArgument m) ∧
      ∀ problem, e = .schema problem → x.IsSchema := by
  unfold failure? at h
  split at h
  case h_4 =>
    split at h
    · cases h
      simp [ReplicationError.isRetryable, Refused]
    · split at h
      · cases h
        simp [ReplicationError.isRetryable, Refused]
      · contradiction
  case h_11 => contradiction
  all_goals
    cases h
    simp [ReplicationError.isRetryable, Refused, IsSchema]

section

variable {α : Type} {target : String} {own : ReplicationError → Prop} {es : List Exchange}
  {result : Except ReplicationError α}

theorem Ends.stops (h : Ends target own es result) {before after : List Exchange} {x : Exchange}
    (hsplit : es = before ++ x :: after) (hfailure : x.failure? target ≠ none) : after = [] := by
  have hx : x ∈ before ++ x :: after := List.mem_append_right _ List.mem_cons_self
  cases h with
  | well hwell | own hwell => exact absurd (hwell x (hsplit ▸ hx)) hfailure
  | @failed es y e hwell hfail =>
    rcases List.eq_nil_or_concat after with rfl | ⟨init, last, rfl⟩
    · rfl
    · rw [List.concat_eq_append, ← List.cons_append, ← List.append_assoc] at hsplit
      have hinit := (List.append_inj' hsplit rfl).1
      exact absurd (hwell x (by rw [hinit]; simp)) hfailure

theorem Ends.reports (h : Ends target own es result) {x : Exchange} (hx : x ∈ es) {e : ReplicationError}
    (hfailure : x.failure? target = some e) : result = .error e := by
  cases h with
  | well hwell | own hwell =>
    rw [hwell x hx] at hfailure
    contradiction
  | @failed es y e' hwell hfail =>
    rcases List.mem_append.mp hx with hx | hx
    · rw [hwell x hx] at hfailure
      contradiction
    · rw [List.mem_singleton.mp hx, hfail] at hfailure
      rw [Option.some.inj hfailure]

theorem Ends.origin {e : ReplicationError} (h : Ends target own es (.error e : Except _ α)) :
    (∃ x ∈ es, x.failure? target = some e) ∨ own e := by
  cases h with
  | @failed es x _ _ hfail => exact Or.inl ⟨x, by simp, hfail⟩
  | own _ hown => exact Or.inr hown

end

/-! ## The client's actions -/

section

variable {W : Type} {own : ReplicationError → Prop}

/-- A record of the schema cannot be used. -/
def Unusable (e : ReplicationError) : Prop := ∃ dn reason, e = .schema (.malformed dn reason)

theorem AttributeFilter.unusable_verdict {e : SearchEntry} {problem : SchemaError} (h : verdict e = .error problem) :
    Unusable (.schema problem) := by
  have hrule := ruled_verdict e
  rw [h] at hrule
  cases hrule <;> exact ⟨_, _, rfl⟩

abbrev Exchange.Aside (x : Exchange) : Prop := ¬ x.IsPull

abbrev Exchange.Outward (x : Exchange) : Prop := ¬ x.IsSchema

section

variable (target : String) (schema : SchemaAccess W)

theorem AttributeFilter.reports_collect {kind : Exchange → Prop} (hkind : ∀ name answer, kind (.resolve name answer))
    (entries : List SearchEntry) :
    Reports target kind Unusable (collect schema entries) (collect schema.watched entries) := by
  induction entries with
  | nil => exact reports_pure _
  | cons e es ih =>
    unfold collect
    cases hverdict : verdict e with
    | error problem => exact reports_throw (unusable_verdict hverdict)
    | ok v =>
      cases v with
      | notSent | filtered => exact reports_bind (reports_note _) fun _ => ih
      | wanted name =>
        refine reports_bind (reports_ask (hkind name) (fun _ => rfl) fun _ => rfl) fun id => ?_
        exact reports_bind ih fun ids => reports_pure _

theorem AttributeFilter.reports_build :
    Reports target Exchange.IsSchema Unusable (build schema) (build schema.watched) := by
  unfold build
  refine reports_bind (reports_ask (fun _ => trivial) (fun _ => rfl) fun _ => rfl) fun base => ?_
  refine reports_bind (reports_ask (fun _ => trivial) (fun _ => rfl) fun _ => rfl) fun entries => ?_
  refine reports_bind (reports_collect target schema (fun _ _ => trivial) entries) fun ids => ?_
  exact reports_bind (reports_note _) fun _ => reports_pure _

theorem Session.reports_wanted (options : PullOptions) :
    Reports target Exchange.IsSchema Unusable (wanted schema options) (wanted schema.watched options) := by
  unfold wanted
  split
  · exact reports_bind (AttributeFilter.reports_build target schema) fun set => reports_pure _
  · exact reports_pure _

end

section

variable (connector : Connector W) (server : ServerAccess W) (target : String)

theorem Connection.reports_negotiate :
    Reports target Exchange.Aside own (negotiate server target) (negotiate server.watched target) := by
  unfold negotiate
  refine reports_bind (reports_note _) fun _ => ?_
  refine reports_bind (reports_ask (fun _ => not_false) (fun _ => rfl) fun _ => rfl) fun answer => ?_
  dsimp only
  split
  · refine reports_bind (reports_note _) fun _ => ?_
    exact reports_bind (reports_note _) fun _ => reports_pure _
  · exact reports_bind (reports_note _) fun _ => reports_pure _

theorem Connection.reports_bindCall :
    Reports target Exchange.Aside own (Connection.bind server target) (Connection.bind server.watched target) := by
  unfold Connection.bind
  exact reports_bind (reports_negotiate server target) fun _ => reports_pure _

theorem Connection.reports_connect (config : Config) (credentials : Credentials) :
    Reports target Exchange.Aside own (Connection.connect connector server target config credentials)
      (Connection.connect connector.watched server.watched target config credentials) := by
  unfold Connection.connect
  refine reports_bind (reports_note _) fun _ => ?_
  refine reports_bind (reports_ask (fun _ => not_false) (fun _ => rfl) fun _ => rfl) fun _ => ?_
  exact reports_bindCall server target

theorem Connection.reports_triggerSync (c : Connection) (source : Guid) (context : String) (options : ReplicaFlags) :
    Reports target Exchange.Aside own (c.triggerSync server source context options)
      (c.triggerSync server.watched source context options) := by
  unfold Connection.triggerSync
  refine reports_bind (reports_ask (fun _ => not_false) (fun _ => rfl) fun _ => rfl) fun _ => ?_
  exact reports_note _

theorem Connection.reports_removeServer (c : Connection) (removed domain : String) :
    Reports target Exchange.Aside own (c.removeServer server removed domain)
      (c.removeServer server.watched removed domain) := by
  unfold Connection.removeServer
  refine reports_bind (reports_ask (fun _ => not_false) (fun _ => rfl) fun _ => rfl) fun _ => ?_
  exact reports_note _

end

/-! ## Pulls -/

namespace Session

variable {s : Session} {options : PullOptions} {r : PullRequest} {es : List Exchange}

/-- A reply is looked at before anything is stored. -/
theorem Turn.accounts {result : Except ReplicationError Chunk} (h : Turn s options r es result) :
    Accounts s.connection.target Exchange.Outward own es result := by
  have hpull : ∀ reply : PullReply, reply.chunk.breach? r.terms.cursor = none →
      ∀ x ∈ [Exchange.pull s.connection.handle r (.ok reply)], x.failure? s.connection.target = none := by
    intro reply hbreach
    simp only [List.forall_mem_singleton, Exchange.failure?_pull, hbreach, Option.map_none]
  cases h with
  | refused e => exact ⟨by simp [Exchange.Outward, Exchange.IsSchema], .failed (List.forall_mem_nil _) rfl⟩
  | broken hbreach =>
    refine ⟨by simp [Exchange.Outward, Exchange.IsSchema], .failed (List.forall_mem_nil _) ?_⟩
    rw [Exchange.failure?_pull, hbreach]
    rfl
  | @rejected reply hbreach e =>
    exact ⟨by simp [Exchange.Outward, Exchange.IsSchema], .failed (hpull reply hbreach) rfl⟩
  | @stored reply hbreach =>
    refine ⟨by simp [Exchange.Outward, Exchange.IsSchema], .well ?_⟩
    exact List.forall_mem_cons.mpr ⟨hpull reply hbreach _ (List.mem_singleton_self _), by simp [Exchange.failure?]⟩

theorem Turns.accounts {calls : Nat} {stats : PullStats} {result : Except ReplicationError (Option PullStats)}
    (h : Turns s options calls r stats es result) : Accounts s.connection.target Exchange.Outward own es result := by
  induction h with
  | spent => exact accounts_nil
  | fails hturn => exact hturn.accounts.error
  | @last _ _ _ es chunk hturn _ =>
    have hwell : Accounts s.connection.target Exchange.Outward own es (.ok chunk) := hturn.accounts
    exact ⟨hwell.kinds, .well hwell.ends.wells⟩
  | more hturn _ _ ih => exact hturn.accounts.append ih

end Session

end

end DirectoryPull
