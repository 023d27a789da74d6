import DirectoryPull.Proofs.Client.Reports

/-!
# Failures end an operation

Whatever goes wrong with a call or a reply, an operation of the client stops there and returns that failure, as the
place of the call has it.
-/

namespace DirectoryPull

open DirectoryPull.Action

/-! ## Operations -/

inductive Operation
  | start (target : String) (identity : Guid)
  | connect (target : String) (credentials : Credentials) (config : Config) (identity : Guid)
  | replicate (s : Session) (calls : Nat) (dn : String) (source destination : Guid) (options : PullOptions)
  | triggerSync (c : Connection) (source : Guid) (context : String) (options : ReplicaFlags)
  | removeServer (c : Connection) (removed domain : String)

namespace Operation

def Result : Operation → Type
  | start _ _ | connect _ _ _ _ => Session
  | replicate _ _ _ _ _ _ => Option PullStats
  | triggerSync _ _ _ _ | removeServer _ _ _ => Unit

variable {W : Type}

def run (connector : Connector W) (peers : Peers W) : (op : Operation) → Action W ReplicationError op.Result
  | start target identity => Session.start peers.server target identity
  | connect target credentials config identity =>
    Session.connect connector peers.server target credentials config identity
  | replicate s calls dn source destination options => Session.replicate peers s calls dn source destination options
  | triggerSync c source context options => c.triggerSync peers.server source context options
  | removeServer c removed domain => c.removeServer peers.server removed domain

def target : Operation → String
  | start target _ | connect target _ _ _ => target
  | replicate s _ _ _ _ _ => s.connection.target
  | triggerSync c _ _ _ | removeServer c _ _ => c.target

/-- The operation is given an identity, and it is none. -/
def Nameless : Operation → Prop
  | start _ identity | connect _ _ _ identity => identity = .nil
  | _ => False

end Operation

/-- How an operation deals with failures. -/
structure Honest (op : Operation) (es : List Exchange) (result : Except ReplicationError op.Result) : Prop where
  /-- No call is made after a failure. -/
  stops : ∀ before x after, es = before ++ x :: after → x.failure? op.target ≠ none → after = []
  /-- A failure is returned as it is. -/
  reports : ∀ x ∈ es, ∀ e, x.failure? op.target = some e → result = .error e
  /-- Any other error is of the client's own: a record of the schema is no use, or there is no identity. -/
  origin : ∀ e, result = .error e →
    (∃ x ∈ es, x.failure? op.target = some e) ∨ Unusable e ∨ e = .invalidArgument .noIdentity
  /-- The schema is asked before anything is pulled. -/
  schemaFirst : ∀ problem, result = .error (.schema problem) → ∀ x ∈ es, ¬ x.IsPull
  /-- Another attempt makes sense exactly after an error of the connector or the server. -/
  retryable : ∀ e, result = .error e →
    (e.isRetryable = true ↔ ∃ x ∈ es, x.Refused ∧ x.failure? op.target = some e)
  /-- An argument is refused before any call, and only a missing identity is. -/
  misuse : (∀ m, result = .error (.invalidArgument m) ↔ op.Nameless ∧ m = .noIdentity) ∧ (op.Nameless → es = [])
  /-- Success means that nothing went wrong. -/
  sound : ∀ a, result = .ok a → ∀ x ∈ es, x.failure? op.target = none

/-! ## From accounts to honesty -/

theorem honest_of_ends {op : Operation} {es : List Exchange} {result : Except ReplicationError op.Result}
    (hop : ¬ op.Nameless) (h : Ends op.target Unusable es result)
    (hfirst : ∀ problem, result = .error (.schema problem) → ∀ x ∈ es, ¬ x.IsPull) : Honest op es result where
  stops before x after hsplit hfailure := h.stops hsplit hfailure
  reports x hx e hfailure := h.reports hx hfailure
  origin e he := by
    subst he
    exact h.origin.imp_right Or.inl
  schemaFirst := hfirst
  retryable e he := by
    subst he
    constructor
    · intro hretry
      rcases h.origin with ⟨x, hx, hfailure⟩ | ⟨dn, reason, rfl⟩
      · exact ⟨x, hx, (Exchange.failure?_kind hfailure).1.mp hretry, hfailure⟩
      · contradiction
    · rintro ⟨x, -, hrefused, hfailure⟩
      exact (Exchange.failure?_kind hfailure).1.mpr hrefused
  misuse := by
    refine ⟨fun m => ⟨fun he => ?_, fun hm => absurd hm.1 hop⟩, fun hn => absurd hn hop⟩
    subst he
    rcases h.origin with ⟨x, -, hfailure⟩ | ⟨dn, reason, he⟩
    · exact absurd rfl ((Exchange.failure?_kind hfailure).2.1 m)
    · contradiction
  sound a ha := by
    subst ha
    exact h.wells

theorem honest_of_nameless {op : Operation} (hop : op.Nameless) :
    Honest op [] (.error (.invalidArgument .noIdentity)) where
  stops before x after hsplit := by simp at hsplit
  reports x hx := by simp at hx
  origin e he := by
    cases he
    exact Or.inr (Or.inr rfl)
  schemaFirst problem he := by cases he
  retryable e he := by
    cases he
    simp [ReplicationError.isRetryable]
  misuse := by
    refine ⟨fun m => ?_, fun _ => rfl⟩
    simp only [Except.error.injEq, ReplicationError.invalidArgument.injEq, hop, true_and]
    exact eq_comm
  sound a ha := by cases ha

/-! ## Every operation -/

section

variable {W : Type}

theorem Session.checkIdentity_named {identity : Guid} (h : identity ≠ .nil) :
    (checkIdentity identity : Action W ReplicationError Unit) = pure () := by
  unfold checkIdentity
  rw [if_neg]
  simpa [Guid.isNil] using h

section

variable (connector : Connector W) (server : ServerAccess W) (target : String) {identity : Guid}
  (h : identity ≠ .nil)
include h

theorem Session.reports_start :
    Reports target Exchange.Aside Unusable (start server target identity) (start server.watched target identity) := by
  unfold start
  rw [checkIdentity_named h, checkIdentity_named h]
  refine reports_bind (reports_pure ()) fun _ => ?_
  exact reports_bind (Connection.reports_bindCall server target) fun _ => reports_pure _

theorem Session.reports_connect (credentials : Credentials) (config : Config) :
    Reports target Exchange.Aside Unusable (connect connector server target credentials config identity)
      (connect connector.watched server.watched target credentials config identity) := by
  unfold connect
  rw [checkIdentity_named h, checkIdentity_named h]
  refine reports_bind (reports_pure ()) fun _ => ?_
  exact reports_bind (Connection.reports_connect connector server target config credentials) fun _ => reports_pure _

end

theorem Session.reports_replicate (peers : Peers W) (s : Session) (calls : Nat) (dn : String)
    (source destination : Guid) (options : PullOptions) :
    Shows (replicate peers s calls dn source destination options)
      (replicate peers.watched s calls dn source destination options) fun es result =>
        Ends s.connection.target Unusable es result ∧
          ∀ problem, result = .error (.schema problem) → ∀ x ∈ es, ¬ x.IsPull := by
  refine shows_iff.mpr fun w => showsFrom_replicate peers s calls dn source destination options
    (shows_iff.mp (reports_wanted s.connection.target peers.schema options) w) ?_ ?_
  · rintro set es w' es' result w'' hes hturns
    have hes' : Accounts s.connection.target Exchange.Outward (fun _ => False) es' result := hturns.accounts
    refine ⟨(hes'.ends.mono fun _ h => h.elim).append hes.ends.wells, ?_⟩
    rintro problem rfl
    rcases hes'.ends.origin with ⟨x, hx, hfailure⟩ | hfalse
    · exact absurd ((Exchange.failure?_kind hfailure).2.2 problem rfl) (hes'.kinds x hx)
    · exact hfalse.elim
  · exact fun e es w' hes => ⟨hes.ends.error, fun _ _ x hx => (hes.kinds x hx).not_pull⟩

section

variable {connector : Connector W} {peers : Peers W} {op : Operation}

theorem honest_of_reports (hop : ¬ op.Nameless)
    (h : Reports op.target Exchange.Aside Unusable (op.run connector peers) (op.run connector.watched peers.watched)) :
    Shows (op.run connector peers) (op.run connector.watched peers.watched) (Honest op) :=
  Shows.mono h fun _ _ hes => honest_of_ends hop hes.ends fun _ _ => hes.kinds

theorem Operation.shows_nameless (hop : op.Nameless) :
    Shows (op.run connector peers) (op.run connector.watched peers.watched) (Honest op) := by
  have hrefused := honest_of_nameless hop
  cases op with
  | start target identity | connect target credentials config identity =>
    cases hop
    refine fun w => ⟨[], _, w, fun log => ⟨log, rfl⟩, fun log seen => ⟨log, ?_⟩, hrefused⟩
    rw [List.append_nil]
    rfl
  | replicate | triggerSync | removeServer => exact hop.elim

end

/-- **Failures.** -/
theorem run_honest (connector : Connector W) (peers : Peers W) (op : Operation) :
    Shows (op.run connector peers) (op.run connector.watched peers.watched) (Honest op) := by
  by_cases hop : op.Nameless
  · exact Operation.shows_nameless hop
  cases op with
  | start target identity => exact honest_of_reports hop (Session.reports_start peers.server target hop)
  | connect target credentials config identity =>
    exact honest_of_reports hop (Session.reports_connect connector peers.server target hop credentials config)
  | replicate s calls dn source destination options =>
    refine (Session.reports_replicate peers s calls dn source destination options).mono fun es result hes => ?_
    exact honest_of_ends hop hes.1 hes.2
  | triggerSync c source context options =>
    exact honest_of_reports hop (Connection.reports_triggerSync peers.server c.target c source context options)
  | removeServer c removed domain =>
    exact honest_of_reports hop (Connection.reports_removeServer peers.server c.target c removed domain)

end

end DirectoryPull
