import DirectoryPull.Client.Maintenance
import DirectoryPull.Proofs.Pull.Steps
import DirectoryPull.Proofs.Server.Removals

/-!
# Rosters

The servers of a domain are those that were added to it and have not been removed since, in the order in which they
were added. A server may be added more than once; one removal takes out all of them.
-/

namespace DirectoryPull.Roster

open DirectoryPull.Action DirectoryServer

/-! ## One removal -/

/-- What the client notes about a removal that leaves a list behind. -/
def notice (server domain : String) (left : List String) : Event :=
  if left = [] then .lastServerRemoved server domain else .serverRemoved server domain

/-- The error of a removal that the server does not know how to carry out. -/
def refusal (server domain : String) : ReplicationError :=
  .operation "DsRemoveDSServer" (.fault noSuchServer s!"{server} is not a server of {domain}")

theorem notice_said (server domain : String) (left : List String) :
    ((notice server domain left).severity, (notice server domain left).message) =
      if left = [] then (.warn, "removed the last DC of the domain") else (.info, "server removed") := by
  unfold notice
  split <;> rfl

/-- What a removal comes to: from one state of the server to the next, with a result and some events. -/
structure Removed (server domain : String) (s s' : DirectoryServer) (result : Except ReplicationError Unit)
    (events : List Event) : Prop where
  succeeds : result = .ok () ↔ server ∈ s.controllersOf domain
  /-- Every occurrence is gone, and nothing else is. -/
  gone : result = .ok () → s'.controllersOf domain = (s.controllersOf domain).filter (· ≠ server)
  noted : result = .ok () → events = [notice server domain (s'.controllersOf domain)]
  said : result = .ok () → events.map (fun e => (e.severity, e.message)) =
    [if s'.controllersOf domain = [] then (.warn, "removed the last DC of the domain") else (.info, "server removed")]
  fails : ∀ e, result = .error e → e = refusal server domain ∧ events = [] ∧
    ∀ d, s'.controllersOf d = s.controllersOf d
  others : ∀ d, d ≠ domain → s'.controllersOf d = s.controllersOf d

section

variable {c : Connection} {s : DirectoryServer} {server domain : String}

theorem removed_listed (h : server ∈ s.controllersOf domain) :
    Removed server domain s (s.struck (.committing server domain)) (.ok ())
      [notice server domain (s.remaining (.committing server domain))] := by
  have hleft : (s.struck (.committing server domain)).controllersOf domain =
      s.remaining (.committing server domain) := by
    rw [controllersOf_struck, RemovalRequest.committing, if_pos rfl]
  constructor
  case succeeds => exact iff_of_true rfl h
  case gone => exact fun _ => hleft
  case noted => exact fun _ => by rw [hleft]
  case said => exact fun _ => by rw [hleft, List.map_singleton, notice_said]
  case fails => simp
  case others =>
    intro d hd
    rw [controllersOf_struck, RemovalRequest.committing, if_neg hd]

theorem removed_unlisted (h : server ∉ s.controllersOf domain) :
    Removed server domain s (s.recorded (.committing server domain)) (.error (refusal server domain)) [] where
  succeeds := iff_of_false (by simp) h
  gone hok := by simp at hok
  noted hok := by simp at hok
  said hok := by simp at hok
  fails e he := by
    obtain rfl := Except.error.inj he
    exact ⟨rfl, rfl, fun _ => rfl⟩
  others _ _ := rfl

theorem removeServer_listed (hbound : c.handle = DirectoryServer.handle) (h : server ∈ s.controllersOf domain)
    (log : List Event) :
    c.removeServer Server.access server domain ⟨s, log⟩ = .ok () ⟨s.struck (.committing server domain),
      log ++ [notice server domain (s.remaining (.committing server domain))]⟩ := by
  have hcall : (Server.access : ServerAccess DirectoryServer).remove c.handle (.committing server domain) s =
      .ok ⟨(s.remaining (.committing server domain)).isEmpty⟩ (s.struck (.committing server domain)) := by
    rw [hbound]
    exact remove_committed h rfl
  unfold Connection.removeServer
  simp only [Bind.bind, EStateM.bind, ask, hcall, List.isEmpty_iff]
  rfl

theorem removeServer_unlisted (hbound : c.handle = DirectoryServer.handle) (h : server ∉ s.controllersOf domain)
    (log : List Event) :
    c.removeServer Server.access server domain ⟨s, log⟩ =
      .error (refusal server domain) ⟨s.recorded (.committing server domain), log⟩ := by
  have hcall : (Server.access : ServerAccess DirectoryServer).remove c.handle (.committing server domain) s =
      .error (.fault noSuchServer s!"{server} is not a server of {domain}")
        (s.recorded (.committing server domain)) := by
    rw [hbound]
    exact remove_unlisted h
  unfold Connection.removeServer
  simp only [Bind.bind, EStateM.bind, ask, hcall]
  rfl

theorem removeServer_removed (hbound : c.handle = DirectoryServer.handle) (s : DirectoryServer)
    (server domain : String) :
    ∃ result s' events,
      (∀ log, Call.Answers (c.removeServer Server.access server domain) ⟨s, log⟩ result ⟨s', log ++ events⟩) ∧
      Removed server domain s s' result events := by
  by_cases h : server ∈ s.controllersOf domain
  · exact ⟨.ok (), _, _, removeServer_listed hbound h, removed_listed h⟩
  · refine ⟨.error _, _, [], fun log => ?_, removed_unlisted h⟩
    rw [List.append_nil]
    exact removeServer_unlisted hbound h log

end

/-! ## Steps and what is told of them -/

inductive Step
  | add (domain server : String)
  | remove (server domain : String)

/-- A step that was taken, and for a removal whether it succeeded. -/
inductive Told
  | added (domain server : String)
  | removed (server domain : String)
  | refused (server domain : String)
deriving DecidableEq

def Told.step : Told → Step
  | added domain server => .add domain server
  | removed server domain | refused server domain => .remove server domain

/-- What a list of a domain becomes. -/
def Told.apply (domain : String) (listed : List String) : Told → List String
  | added d server => if domain = d then listed ++ [server] else listed
  | removed server d => if domain = d then listed.filter (· ≠ server) else listed
  | refused _ _ => listed

/-- The step found the server where it was to be found. -/
def Told.Holds (listed : String → List String) : Told → Prop
  | added _ _ => True
  | removed server domain => server ∈ listed domain
  | refused server domain => server ∉ listed domain

def Step.run (c : Connection) : Step → Action DirectoryServer ReplicationError Told
  | add domain server => do
    modify fun scene => { scene with world := scene.world.addController domain server }
    return .added domain server
  | remove server domain => do
    match ← (c.removeServer Server.access server domain).attempt with
    | .ok () => return .removed server domain
    | .error _ => return .refused server domain

def runAll (c : Connection) : List Step → Action DirectoryServer ReplicationError (List Told)
  | [] => return []
  | step :: steps => do
    let told ← step.run c
    return told :: (← runAll c steps)

/-! ## What is left of the additions -/

/-- The additions to a domain, less those that a removal of the same server from it follows. -/
def listed (domain : String) : List Told → List String
  | [] => []
  | .added d server :: later =>
    if d = domain ∧ .removed server domain ∉ later then server :: listed domain later else listed domain later
  | .removed _ _ :: later | .refused _ _ :: later => listed domain later

/-- From any list, what is told takes out all that it removes, and the additions that are left come behind. -/
theorem foldl_apply (domain : String) (told : List Told) (first : List String) :
    told.foldl (Told.apply domain) first =
      first.filter (fun server => .removed server domain ∉ told) ++ listed domain told := by
  induction told generalizing first with
  | nil =>
    rw [List.foldl_nil, listed, List.append_nil, List.filter_eq_self.mpr]
    simp
  | cons t later ih =>
    rw [List.foldl_cons, ih]
    cases t with
    | added d server =>
      by_cases hd : domain = d
      · by_cases hlater : .removed server domain ∈ later
        · simp [Told.apply, listed, ← hd, hlater]
        · simp [Told.apply, listed, ← hd, hlater]
      · simp [Told.apply, listed, hd, Ne.symm hd]
    | removed server d =>
      by_cases hd : domain = d
      · simp [Told.apply, listed, ← hd, List.filter_filter, Bool.and_comm]
      · simp [Told.apply, listed, hd]
    | refused server d => simp [Told.apply, listed]

/-! ## Step by step -/

section

variable {c : Connection} (hbound : c.handle = DirectoryServer.handle)
include hbound

theorem run_step (step : Step) (s : DirectoryServer) :
    ∃ told s', (∀ log, Yields (step.run c) ⟨s, log⟩ (.ok told) s') ∧ told.step = step ∧ told.Holds s.controllersOf ∧
      ∀ d, s'.controllersOf d = told.apply d (s.controllersOf d) := by
  cases step with
  | add domain server =>
    exact ⟨.added domain server, s.addController domain server, fun log => ⟨log, rfl⟩, rfl, trivial,
      s.controllersOf_addController domain server⟩
  | remove server domain =>
    obtain ⟨result, s', events, hrun, hremoved⟩ := removeServer_removed hbound s server domain
    have htry : ∀ log, Yields ((c.removeServer Server.access server domain).attempt :
        Action DirectoryServer ReplicationError _) ⟨s, log⟩ (.ok result) s' :=
      fun log => yields_attempt (.of_answers (hrun log))
    cases result with
    | ok _ =>
      refine ⟨.removed server domain, s', fun log => yields_bind (htry log) fun log => yields_pure _ _, rfl,
        hremoved.succeeds.mp rfl, fun d => ?_⟩
      rw [Told.apply]
      split
      · next hd =>
        rw [hd]
        exact hremoved.gone rfl
      · next hd => exact hremoved.others d hd
    | error e =>
      refine ⟨.refused server domain, s', fun log => yields_bind (htry log) fun log => yields_pure _ _, rfl, ?_,
        (hremoved.fails e rfl).2.2⟩
      exact fun hlisted => by simpa using hremoved.succeeds.mpr hlisted

theorem runAll_told (steps : List Step) (s : DirectoryServer) :
    ∃ told s', (∀ log, Yields (runAll c steps) ⟨s, log⟩ (.ok told) s') ∧ told.map Told.step = steps ∧
      (∀ d, s'.controllersOf d = told.foldl (Told.apply d) (s.controllersOf d)) ∧
      ∀ (k : Nat) (t : Told), told[k]? = some t →
        t.Holds fun d => (told.take k).foldl (Told.apply d) (s.controllersOf d) := by
  induction steps generalizing s with
  | nil => exact ⟨[], s, fun log => yields_pure _ _, rfl, fun _ => rfl, by simp⟩
  | cons step steps ih =>
    obtain ⟨t, between, hstep, hsame, hholds, hlists⟩ := run_step hbound step s
    obtain ⟨told, s', hrest, hsteps, hleft, hmoments⟩ := ih between
    refine ⟨t :: told, s', fun log => ?_, ?_, ?_, ?_⟩
    · unfold runAll
      exact yields_bind (hstep log) fun log => yields_bind (hrest log) fun log => yields_pure _ _
    · rw [List.map_cons, hsame, hsteps]
    · intro d
      rw [List.foldl_cons, hleft, hlists]
    · rintro (_ | k) t' ht'
      · obtain rfl := Option.some.inj ht'
        exact hholds
      · have hmoment := hmoments k t' ht'
        simp only [hlists] at hmoment
        exact hmoment

/-- **Rosters.** On a server that lists no server yet. -/
theorem roster_exact :
    (∀ s server domain, ∃ result s' events,
      (∀ log, Call.Answers (c.removeServer Server.access server domain) ⟨s, log⟩ result ⟨s', log ++ events⟩) ∧
      Removed server domain s s' result events) ∧
    ∀ steps s, (∀ d, s.controllersOf d = []) → ∃ told s',
      (∀ log, Yields (runAll c steps) ⟨s, log⟩ (.ok told) s') ∧ told.map Told.step = steps ∧
      (∀ d, s'.controllersOf d = listed d told) ∧
      ∀ (k : Nat) (t : Told), told[k]? = some t → t.Holds fun d => listed d (told.take k) := by
  refine ⟨removeServer_removed hbound, fun steps s hnone => ?_⟩
  have hfrom : ∀ (d : String) (told : List Told), told.foldl (Told.apply d) (s.controllersOf d) = listed d told := by
    intro d told
    rw [foldl_apply, hnone, List.filter_nil, List.nil_append]
  obtain ⟨told, s', hrun, hsteps, hleft, hmoments⟩ := runAll_told hbound steps s
  simp only [hfrom] at hleft hmoments
  exact ⟨told, s', hrun, hsteps, hleft, hmoments⟩

end

/-- A server that is added twice, removed, and added again, next to one that was never there. -/
def comings : List Step :=
  [.add "DC=a" "CN=1", .add "DC=b" "CN=1", .add "DC=a" "CN=1", .remove "CN=1" "DC=a", .remove "CN=2" "DC=a",
    .add "DC=a" "CN=1"]

theorem roster_exact_comings :
    (Session.ofLimit DirectoryServer.handle 1).connection.handle = DirectoryServer.handle ∧
      (∀ d, full.controllersOf d = []) ∧ ∃ told s',
      (∀ log, Yields (runAll (Session.ofLimit DirectoryServer.handle 1).connection comings) ⟨full, log⟩ (.ok told) s') ∧
      told.map Told.step = comings ∧ (∀ d, s'.controllersOf d = listed d told) ∧
      ∀ (k : Nat) (t : Told), told[k]? = some t → t.Holds fun d => listed d (told.take k) :=
  ⟨rfl, fun _ => rfl, (roster_exact rfl).2 comings full fun _ => rfl⟩

end DirectoryPull.Roster
