import DirectoryPull.Proofs.Client.Failures
import DirectoryPull.Proofs.Pull.Filtered
import DirectoryPull.Proofs.Server.Calls
import DirectoryPull.Server.Scripted

/-!
# The life of a session

A session is bound once. Whatever is done with it later and however that ends, what was agreed to stays, and every
call goes by it and by the configuration that was given last.
-/

namespace DirectoryPull

open DirectoryPull.Action

variable {W : Type}

/-! ## What is done with a session -/

/-- How a session comes to be. -/
inductive Birth
  | start (target : String) (identity : Guid)
  | connect (target : String) (credentials : Credentials) (config : Config) (identity : Guid)

namespace Birth

def run (connector : Connector W) (server : ServerAccess W) : Birth → Action W ReplicationError Session
  | start target identity => Session.start server target identity
  | connect target credentials config identity => Session.connect connector server target credentials config identity

def target : Birth → String
  | start target _ | connect target _ _ _ => target

def identity : Birth → Guid
  | start _ identity | connect _ _ _ identity => identity

/-- The configuration that the session has at first. -/
def config : Birth → Config
  | start _ _ => .default
  | connect _ _ config _ => config

/-- What is exchanged before the bind. -/
def opening : Birth → List Exchange
  | start _ _ => []
  | connect target credentials config _ => [.connect (config.bindingFor target) credentials (.ok ())]

/-- The surroundings in which the server is asked to bind. -/
def reached (connector : Connector W) (w : W) : Birth → W
  | start _ _ => w
  | connect target credentials config _ => (connector (config.bindingFor target) credentials).after w

end Birth

inductive Step
  | configure (config : Config)
  | replicate (calls : Nat) (dn : String) (source destination : Guid) (options : PullOptions)
  | triggerSync (source : Guid) (context : String) (options : ReplicaFlags)
  | removeServer (removed domain : String)

namespace Step

/-- A call that fails leaves the session in use. -/
def run (peers : Peers W) (s : Session) : Step → Action W ReplicationError Session
  | configure config => pure (s.withConfig config)
  | replicate calls dn source destination options => do
    let _ ← (s.replicate peers calls dn source destination options).attempt
    return s
  | triggerSync source context options => do
    let _ ← (s.connection.triggerSync peers.server source context options).attempt
    return s
  | removeServer removed domain => do
    let _ ← (s.connection.removeServer peers.server removed domain).attempt
    return s

def config? : Step → Option Config
  | configure config => some config
  | _ => none

end Step

/-- The configuration after some steps: the one given last, or else the first one. -/
def inForce (first : Config) (steps : List Step) : Config :=
  steps.foldl (fun config step => step.config?.getD config) first

def live (connector : Connector W) (peers : Peers W) (birth : Birth) (steps : List Step) :
    Action W ReplicationError Session := do
  let s ← birth.run connector peers.server
  steps.foldlM (Step.run peers) s

/-! ## The bind -/

/-- The server agreed to what was offered to it in some surroundings, and that was the last of some exchanges. The
connection has what was answered, as far as it was offered. -/
structure Agreed (server : ServerAccess W) (w w' : W) (target : String) (opening es : List Exchange) (c : Connection)
    (info : BindInfo) : Prop where
  answer : server.bind .bindInterface .offered w = .ok (c.handle, info) w'
  exchanges : es = opening ++ [.bind .bindInterface .offered (.ok (c.handle, info))]
  target : c.target = target
  extensions : c.extensions = info.extensions.inter Extensions.offered

theorem Connection.showsFrom_bind (server : ServerAccess W) (target : String) (w : W) :
    ShowsFrom w (Connection.bind server target) (Connection.bind server.watched target) fun es result w' =>
      (∀ c, result = .ok c → ∃ info, Agreed server w w' target [] es c info) ∧
        ∀ e, result = .error e → ∃ e', server.bind .bindInterface .offered w = .error e' w' := by
  have hnegotiate : ShowsFrom w (negotiate server target) (negotiate server.watched target) fun es result w' =>
      (∀ agreed, result = .ok agreed → ∃ info, Agreed server w w' target [] es ⟨target, agreed.1, agreed.2⟩ info) ∧
        ∀ e, result = .error e → ∃ e', server.bind .bindInterface .offered w = .error e' w' := by
    unfold negotiate
    refine showsFrom_note_bind _ (showsFrom_ask_bind (fun answer w' hcall => ?_) fun e w' hcall => ⟨by simp, ?_⟩)
    · have hanswer : ∃ info, Agreed server w w' target [] [.bind .bindInterface .offered (.ok answer)]
          ⟨target, answer.1, answer.2.extensions.inter Extensions.offered⟩ info := ⟨answer.2, hcall, rfl, rfl, rfl⟩
      dsimp only
      split
      · exact showsFrom_note_bind _ (showsFrom_note_bind _ (showsFrom_pure ⟨by simpa using hanswer, by simp⟩))
      · exact showsFrom_note_bind _ (showsFrom_pure ⟨by simpa using hanswer, by simp⟩)
    · exact fun _ _ => ⟨e, hcall⟩
  unfold Connection.bind
  refine hnegotiate.bind (fun agreed es w' h => showsFrom_pure ⟨?_, by simp⟩) fun e es w' h => ⟨by simp, ?_⟩
  · rintro c heq
    obtain rfl := Except.ok.inj heq
    rw [List.append_nil]
    exact h.1 agreed rfl
  · exact fun _ _ => h.2 e rfl

theorem Session.showsFrom_checkIdentity (identity : Guid) (w : W) :
    ShowsFrom w (checkIdentity identity) (checkIdentity identity) fun es _ w' => es = [] ∧ w' = w := by
  unfold checkIdentity
  split
  · exact showsFrom_throw ⟨rfl, rfl⟩
  · exact showsFrom_pure ⟨rfl, rfl⟩

namespace Birth

/-- The connection of a session that has an identity. -/
def link (connector : Connector W) (server : ServerAccess W) : Birth → Action W ReplicationError Connection
  | start target _ => Connection.bind server target
  | connect target credentials config _ => Connection.connect connector server target config credentials

theorem run_eq (connector : Connector W) (server : ServerAccess W) (birth : Birth) :
    birth.run connector server = do
      Session.checkIdentity birth.identity
      return ⟨← birth.link connector server, birth.identity, birth.config⟩ := by
  cases birth <;> rfl

variable (connector : Connector W) (server : ServerAccess W) (birth : Birth) (w : W)

theorem showsFrom_link :
    ShowsFrom w (birth.link connector server) (birth.link connector.watched server.watched) fun es result w' =>
      ∀ c, result = .ok c →
        ∃ info, Agreed server (birth.reached connector w) w' birth.target birth.opening es c info := by
  cases birth with
  | start target identity => exact (Connection.showsFrom_bind server target w).mono fun _ _ _ h => h.1
  | connect target credentials config identity =>
    unfold link Connection.connect
    refine showsFrom_note_bind _ (showsFrom_ask_bind (fun _ w₁ hcall => ?_) fun e w' _ => by simp)
    refine (Connection.showsFrom_bind server target w₁).mono fun es result w' h c hc => ?_
    obtain ⟨info, hanswer, rfl, htarget, hextensions⟩ := h.1 c hc
    refine ⟨info, ?_, rfl, htarget, hextensions⟩
    simp only [reached, Call.after, hcall]
    exact hanswer

/-- A session that comes to be has made one bind, at the end, and goes by what was answered. -/
theorem showsFrom_run :
    ShowsFrom w (birth.run connector server) (birth.run connector.watched server.watched) fun es result w' =>
      ∀ s, result = .ok s → s.identity = birth.identity ∧ s.config = birth.config ∧
        ∃ info, Agreed server (birth.reached connector w) w' birth.target birth.opening es s.connection info := by
  rw [run_eq, run_eq]
  refine (Session.showsFrom_checkIdentity birth.identity w).bind (fun _ es w' hes => ?_) fun e es w' _ => by simp
  obtain ⟨rfl, rfl⟩ := hes
  refine (showsFrom_link connector server birth w').bind (fun c es w'' h => showsFrom_pure ?_) fun e es w'' _ => by simp
  rintro s heq
  obtain rfl := Except.ok.inj heq
  rw [List.nil_append, List.append_nil]
  exact ⟨rfl, rfl, h c rfl⟩

end Birth

/-! ## Later calls -/

/-- A call that a session makes once it is bound: those to the server carry its handle, and pulls have the full layout
just where that was agreed to, and the limits of a configuration. -/
inductive Later (handle : Handle) (full : Bool) (config : Config) : Exchange → Prop
  | schema {x : Exchange} (hx : x.IsSchema) : Later handle full config x
  | store (d : Delivery) (answer : Except ApplyError Unit) : Later handle full config (.store d answer)
  | pull {r : PullRequest} (hlevel : r.level = 8 ↔ full = true) (hobjects : r.terms.maxObjects = config.maxObjects)
      (hbytes : r.terms.maxBytes = config.maxBytes) (answer : Except TransportError PullReply) :
    Later handle full config (.pull handle r answer)
  | sync (r : SyncRequest) (answer : Except TransportError Unit) : Later handle full config (.sync handle r answer)
  | remove (r : RemovalRequest) (answer : Except TransportError RemovalResult) :
    Later handle full config (.remove handle r answer)

namespace Session

abbrev Makes (s : Session) : Exchange → Prop :=
  Later s.connection.handle (Extensions.supportsRequestV8 s.connection.extensions) s.config

theorem Repeats.later {s : Session} {dn : String} {source destination : Guid} {options : PullOptions}
    {set : Option AttributeSet} {x : Exchange} (h : Repeats s (firstRequest s dn source destination options set) x) :
    s.Makes x := by
  cases h with
  | pull cursor answer =>
    refine .pull ?_ ?_ ?_ answer
    · rw [PullRequest.level_withCursor]
      unfold firstRequest request
      split <;> simp_all [PullRequest.level]
    · rw [PullRequest.terms_withCursor, firstRequest_terms]
      rfl
    · rw [PullRequest.terms_withCursor, firstRequest_terms]
      rfl
  | store d answer => exact .store d answer

theorem Prepares.later {schema : SchemaAccess W} {options : PullOptions} {w : W} {asked : List Exchange}
    {prepared : Except ReplicationError (Option AttributeSet)} (h : Prepares schema options w asked prepared)
    (s : Session) : ∀ x ∈ asked, s.Makes x := by
  cases h with
  | unfiltered => simp
  | filtered _ _ hasked => exact fun x hx => .schema (hasked.isSchema x hx)

theorem shows_replicate_later (peers : Peers W) (s : Session) (calls : Nat) (dn : String) (source destination : Guid)
    (options : PullOptions) :
    Shows (replicate peers s calls dn source destination options)
      (replicate peers.watched s calls dn source destination options) fun es _ => ∀ x ∈ es, s.Makes x := by
  refine shows_iff.mpr fun w =>
    (replicate_ensues peers s calls dn source destination options w).mono fun es result _ h => ?_
  obtain ⟨asked, prepared, told, rfl, hprepares, hensues⟩ := h
  refine List.forall_mem_append.mpr ⟨hprepares.later s, ?_⟩
  cases hensues with
  | fails e => simp
  | turns hturns => exact fun x hx => (hturns.repeats x hx).later

end Session

theorem Connection.shows_triggerSync (server : ServerAccess W) (c : Connection) (source : Guid) (context : String)
    (options : ReplicaFlags) :
    Shows (c.triggerSync server source context options) (c.triggerSync server.watched source context options)
      fun es _ => ∃ r answer, es = [.sync c.handle r answer] := by
  unfold Connection.triggerSync
  refine shows_ask_bind (fun _ => ?_) fun e => ⟨_, _, rfl⟩
  exact shows_note _ ⟨_, _, rfl⟩

theorem Connection.shows_removeServer (server : ServerAccess W) (c : Connection) (removed domain : String) :
    Shows (c.removeServer server removed domain) (c.removeServer server.watched removed domain)
      fun es _ => ∃ r answer, es = [.remove c.handle r answer] := by
  unfold Connection.removeServer
  refine shows_ask_bind (fun _ => ?_) fun e => ⟨_, _, rfl⟩
  exact shows_note _ ⟨_, _, rfl⟩

/-! ## Step by step -/

section

variable (peers : Peers W) (s : Session)

theorem Session.shows_attempted {α : Type} {act : Action W ReplicationError α}
    {watched : Action (Watched W) ReplicationError α} {post : List Exchange → Except ReplicationError α → Prop}
    (h : Shows act watched post) (hpost : ∀ es result, post es result → ∀ x ∈ es, s.Makes x) :
    Shows (act.attempt >>= fun _ => (pure s : Action W ReplicationError Session))
      (watched.attempt >>= fun _ => pure s) fun es result => result = .ok s ∧ ∀ x ∈ es, s.Makes x := by
  refine shows_bind (shows_attempt h) (fun attempted es hes => shows_pure ?_) fun e es hes => ?_
  · obtain ⟨result, -, hes⟩ := hes
    rw [List.append_nil]
    exact ⟨rfl, hpost es result hes⟩
  · obtain ⟨result, herror, -⟩ := hes
    simp at herror

theorem Step.shows_run (step : Step) :
    Shows (step.run peers s) (step.run peers.watched s) fun es result =>
      result = .ok { s with config := step.config?.getD s.config } ∧ ∀ x ∈ es, s.Makes x := by
  cases step with
  | configure config => exact shows_pure ⟨rfl, by simp⟩
  | replicate calls dn source destination options =>
    exact s.shows_attempted (s.shows_replicate_later peers calls dn source destination options) fun _ _ hes => hes
  | triggerSync source context options =>
    refine s.shows_attempted (s.connection.shows_triggerSync peers.server source context options) ?_
    rintro es result ⟨r, answer, rfl⟩
    simpa using Later.sync r answer
  | removeServer removed domain =>
    refine s.shows_attempted (s.connection.shows_removeServer peers.server removed domain) ?_
    rintro es result ⟨r, answer, rfl⟩
    simpa using Later.remove r answer

/-- What steps exchange, one after the other, each under the configuration in force. -/
def Tells (handle : Handle) (full : Bool) (first : Config) (steps : List Step) (es : List Exchange) : Prop :=
  ∃ told : List (List Exchange), es = told.flatten ∧ told.length = steps.length ∧
    ∀ k exchanges, told[k]? = some exchanges → ∀ x ∈ exchanges, Later handle full (inForce first (steps.take k)) x

theorem shows_steps (steps : List Step) :
    Shows (steps.foldlM (Step.run peers) s) (steps.foldlM (Step.run peers.watched) s) fun es result =>
      result = .ok { s with config := inForce s.config steps } ∧
        Tells s.connection.handle (Extensions.supportsRequestV8 s.connection.extensions) s.config steps es := by
  induction steps generalizing s with
  | nil => exact shows_pure ⟨rfl, [], rfl, rfl, by simp⟩
  | cons step steps ih =>
    refine shows_bind (Step.shows_run peers s step) (fun s' es hes => ?_) fun e es hes => by simp at hes
    obtain ⟨hs', hmakes⟩ := hes
    obtain rfl := Except.ok.inj hs'
    refine (ih _).mono fun es' result hes' => ?_
    obtain ⟨rfl, told, rfl, hlength, htold⟩ := hes'
    refine ⟨rfl, es :: told, rfl, by simp [hlength], ?_⟩
    rintro (_ | k) exchanges hk
    · obtain rfl := Option.some.inj hk
      exact hmakes
    · exact htold k exchanges hk

end

/-! ## A whole life -/

theorem Extensions.supportsRequestV8_offered (mask : Extensions) :
    supportsRequestV8 (mask.inter Extensions.offered) = supportsRequestV8 mask := by
  have hoffered : offered.bits &&& requestV8.bits = requestV8.bits := by decide
  unfold supportsRequestV8 Flags.contains Flags.inter
  rw [UInt32.and_assoc, hoffered]

/-- What comes of a session that was bound by a server with a mask and a handle. -/
structure Lived (birth : Birth) (steps : List Step) (mask : Extensions) (handle : Handle) (es : List Exchange)
    (s : Session) : Prop where
  connection : s.connection = ⟨birth.target, handle, mask.inter Extensions.offered⟩
  identity : s.identity = birth.identity
  config : s.config = inForce birth.config steps
  exchanges : ∃ info es', es = birth.opening ++ .bind .bindInterface .offered (.ok (handle, info)) :: es' ∧
    Tells handle (Extensions.supportsRequestV8 mask) birth.config steps es'

theorem showsFrom_live (connector : Connector W) (peers : Peers W) (birth : Birth) (steps : List Step) (w : W) :
    ShowsFrom w (live connector peers birth steps) (live connector.watched peers.watched birth steps)
      fun es result _ => ∀ s, result = .ok s → ∃ info bound,
        peers.server.bind .bindInterface .offered (birth.reached connector w) = .ok (s.connection.handle, info) bound ∧
        Lived birth steps info.extensions s.connection.handle es s := by
  unfold live
  refine (birth.showsFrom_run connector peers.server w).bind (fun s es bound hborn => ?_) fun e es w' _ => by simp
  obtain ⟨hidentity, hconfig, info, hanswer, rfl, htarget, hextensions⟩ := hborn s rfl
  refine (shows_iff.mp (shows_steps peers s steps) bound).mono fun es' result _ hes' => ?_
  obtain ⟨rfl, htells⟩ := hes'
  rintro s' heq
  obtain rfl := Except.ok.inj heq
  rw [hextensions, Extensions.supportsRequestV8_offered, hconfig] at htells
  refine ⟨info, bound, hanswer, ?_, hidentity, by rw [hconfig], info, es', by simp, htells⟩
  rw [← htarget, ← hextensions]

/-! ## Servers -/

section

variable {σ : Type}

/-- Whoever binds to the server gets its handle, and of its mask all that was offered. -/
def BindsBy (server : ServerAccess σ) (mask : σ → Extensions) (handle : Handle) : Prop :=
  ∀ a h info a', server.bind .bindInterface .offered a = .ok (h, info) a' →
    h = handle ∧ info.extensions.inter Extensions.offered = (mask a).inter Extensions.offered

/-- Every life of a session on the server, next to whatever else there is, goes by the mask that the server has when
it is bound. -/
def Lives (server : ServerAccess σ) (mask : σ → Extensions) (handle : Handle) : Prop :=
  ∀ {V : Type} (part : V → σ) (put : V → σ → V) (connector : Connector V) (schema : SchemaAccess V)
    (store : StoreAccess V) (birth : Birth) (steps : List Step) (v : V),
    ShowsFrom v (live connector ⟨server.on part put, schema, store⟩ birth steps)
      (live connector.watched (Peers.watched ⟨server.on part put, schema, store⟩) birth steps) fun es result _ =>
        ∀ s, result = .ok s → Lived birth steps (mask (part (birth.reached connector v))) handle es s

theorem lives_of_bindsBy {server : ServerAccess σ} {mask : σ → Extensions} {handle : Handle}
    (h : BindsBy server mask handle) : Lives server mask handle := by
  intro V part put connector schema store birth steps v
  refine (showsFrom_live connector ⟨server.on part put, schema, store⟩ birth steps v).mono fun es result _ hlived => ?_
  rintro s heq
  obtain ⟨info, bound, hbind, hconnection, hidentity, hconfig, info', es', hes, htells⟩ := hlived s heq
  obtain ⟨a', hcall, -⟩ := Call.on_ok hbind
  obtain ⟨hhandle, hmask⟩ := h _ _ _ _ hcall
  rw [hhandle] at hconnection hes htells
  rw [← Extensions.supportsRequestV8_offered, hmask, Extensions.supportsRequestV8_offered] at htells
  exact ⟨hmask ▸ hconnection, hidentity, hconfig, info', es', hes, htells⟩

end

theorem ScriptedServer.bindsBy : BindsBy Server.access ScriptedServer.extensions ScriptedServer.handle := by
  intro a h info a' hbind
  change ScriptedServer.bind .offered a = .ok (h, info) a' at hbind
  unfold ScriptedServer.bind at hbind
  dsimp only at hbind
  split at hbind
  · contradiction
  · cases hbind
    exact ⟨rfl, rfl⟩

theorem DirectoryServer.bindsBy : BindsBy Server.access DirectoryServer.extensions DirectoryServer.handle := by
  intro a h info a' hbind
  change DirectoryServer.bind .bindInterface .offered a = .ok (h, info) a' at hbind
  obtain ⟨hhandle, hanswer⟩ := DirectoryServer.bindCall_ok hbind
  refine ⟨hhandle, ?_⟩
  rw [hanswer]
  unfold Flags.inter
  rw [Flags.mk.injEq, UInt32.and_comm _ a.extensions.bits, UInt32.and_assoc]
  exact congrArg _ UInt32.and_self

/-- **The life of a session.** -/
theorem session_lives :
    Lives Server.access ScriptedServer.extensions ScriptedServer.handle ∧
      Lives Server.access DirectoryServer.extensions DirectoryServer.handle ∧ ∀ a : DirectoryServer, a.Admits :=
  ⟨lives_of_bindsBy ScriptedServer.bindsBy, lives_of_bindsBy DirectoryServer.bindsBy, DirectoryServer.admits⟩

end DirectoryPull
