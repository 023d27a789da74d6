import DirectoryPull.Client.Maintenance
import DirectoryPull.Proofs.Pull.Script
import DirectoryPull.Proofs.Server.Removals
import DirectoryPull.Proofs.Views

/-!
# Tasks side by side

Clients pull from a server and maintain it, in any order. Neither kind of task has a part in what becomes of the other.
-/

namespace DirectoryPull

open DirectoryPull.Action

/-! ## What clients do -/

/-- A server, and all that its clients have of their own. -/
structure Shared (σ τ : Type) where
  server : σ
  clients : τ

/-- A pull has a schema and a store, which it may share with others. -/
inductive Task (τ : Type)
  | replicate (s : Session) (schema : SchemaAccess τ) (store : StoreAccess τ) (calls : Nat) (dn : String)
    (source destination : Guid) (options : PullOptions)
  | triggerSync (c : Connection) (source : Guid) (context : String) (options : ReplicaFlags)
  | removeServer (c : Connection) (removed domain : String)

section

variable {σ τ : Type}

def Shared.access (server : ServerAccess σ) : ServerAccess (Shared σ τ) :=
  server.on (·.server) fun w server => { w with server := server }

def Shared.peers (server : ServerAccess σ) (schema : SchemaAccess τ) (store : StoreAccess τ) : Peers (Shared σ τ) where
  server := access server
  schema := schema.on (·.clients) fun w clients => { w with clients := clients }
  store d := (store d).on (·.clients) fun w clients => { w with clients := clients }

namespace Task

abbrev Result : Task τ → Type
  | replicate .. => Option PullStats
  | triggerSync .. | removeServer .. => Unit

def isPull : Task τ → Bool
  | replicate .. => true
  | triggerSync .. | removeServer .. => false

def run (server : ServerAccess σ) : (t : Task τ) → Action (Shared σ τ) ReplicationError t.Result
  | replicate s schema store calls dn source destination options =>
    s.replicate (Shared.peers server schema store) calls dn source destination options
  | triggerSync c source context options => c.triggerSync (Shared.access server) source context options
  | removeServer c removed domain => c.removeServer (Shared.access server) removed domain

end Task

/-! ## Servers that keep the two apart -/

variable {β γ : Type}

/-- Pulls go by one view of the server and maintenance by another, and each keeps the view of the other. -/
structure ServerAccess.Divides (server : ServerAccess σ) (pulling : σ → β) (upkeep : σ → γ) : Prop where
  pull : ∀ h r, (server.pull h r).GoesBy pulling
  sync : ∀ h r, (server.sync h r).GoesBy upkeep
  remove : ∀ h r, (server.remove h r).GoesBy upkeep
  keeps_pull : ∀ h r, (server.pull h r).Keeps upkeep
  keeps_sync : ∀ h r, (server.sync h r).Keeps pulling
  keeps_remove : ∀ h r, (server.remove h r).Keeps pulling

namespace Shared

def serverView (f : σ → β) (w : Shared σ τ) : β := f w.server

/-- A view of the server, and all that the clients have. -/
def fullView (f : σ → β) (w : Shared σ τ) : β × τ := (f w.server, w.clients)

section

variable {f : σ → β} {g : σ → γ} {ε δ α : Type}

theorem minds_pulling {call : Call σ δ α} (h : call.GoesBy f) (hg : call.Keeps g) (wrap : δ → ε) :
    Minds (fullView f) (serverView g)
      (ask (call.on (·.server) fun (w : Shared σ τ) server => { w with server := server }) wrap) := by
  apply Minds.ask
  · exact h.on (fun _ _ hw => (Prod.mk.inj hw).1) fun _ _ _ _ hw hu => Prod.ext hu (Prod.mk.inj hw).2
  · exact hg.on fun _ _ hu => hu

theorem minds_upkeep {call : Call σ δ α} (h : call.GoesBy g) (hf : call.Keeps f) (wrap : δ → ε) :
    Minds (serverView g) (fullView f)
      (ask (call.on (·.server) fun (w : Shared σ τ) server => { w with server := server }) wrap) := by
  apply Minds.ask
  · exact h.on (fun _ _ hw => hw) fun _ _ _ _ _ hu => hu
  · exact hf.on fun _ _ hu => Prod.ext hu rfl

theorem minds_clients (call : Call τ δ α) (wrap : δ → ε) :
    Minds (fullView f) (serverView g)
      (ask (call.on (·.clients) fun (w : Shared σ τ) clients => { w with clients := clients }) wrap) := by
  have hkeep : Call.Keeps (fun _ => ()) call := fun _ => rfl
  apply Minds.ask
  · exact (Call.goesBy_id call).on (fun _ _ hw => (Prod.mk.inj hw).2)
      fun _ _ _ _ hw hu => Prod.ext (Prod.mk.inj hw).1 hu
  · exact hkeep.on fun _ _ _ => rfl

end

end Shared

namespace ServerAccess.Divides

open DirectoryPull.Shared

variable {server : ServerAccess σ} {pulling : σ → β} {upkeep : σ → γ} (h : server.Divides pulling upkeep)
include h

theorem run_pull {t : Task τ} (hkind : t.isPull = true) :
    Minds (fullView pulling) (serverView upkeep) (t.run server) := by
  cases t with
  | triggerSync | removeServer => contradiction
  | replicate s schema store calls dn source destination options =>
    have hpeers : Peers.Meets (Minds (fullView pulling) (serverView upkeep)) (peers server schema store) := by
      constructor
      case pull => exact fun handle r target => minds_pulling (h.pull handle r) (h.keeps_pull handle r) _
      case schema => exact ⟨minds_clients _ _, fun _ => minds_clients _ _, fun _ => minds_clients _ _⟩
      case store => exact fun d => minds_clients _ _
    exact (minds_compositional _ _).replicate hpeers s options calls dn source destination

theorem run_upkeep {t : Task τ} (hkind : t.isPull = false) :
    Minds (serverView upkeep) (fullView pulling) (t.run server) := by
  have hparts := minds_compositional (W := Shared σ τ) (serverView upkeep) (fullView pulling)
  cases t with
  | replicate => contradiction
  | triggerSync c source context options =>
    exact hparts.bind (minds_upkeep (h.sync _ _) (h.keeps_sync _ _) _) fun _ => hparts.note _
  | removeServer c removed domain =>
    exact hparts.bind (minds_upkeep (h.remove _ _) (h.keeps_remove _ _) _) fun _ => hparts.note _

end ServerAccess.Divides

/-! ## Both kinds together, and each alone -/

/-- Three runs from one scene: of all tasks, with what is told of them, of the pulls alone, and of the rest alone. -/
structure ComeApart (server : ServerAccess σ) (pulls : σ → β) (records : σ → γ) (tasks : List (Task τ))
    (scene : Scene (Shared σ τ)) (told : List ((t : Task τ) × Except ReplicationError t.Result))
    (all pulled kept : Scene (Shared σ τ)) : Prop where
  together : Call.Answers (doEach (Task.run server) tasks) scene (.ok told) all
  complete : told.map (·.1) = tasks
  /-- Each pull comes to the same result. -/
  pulls_alone : Call.Answers (doEach (Task.run server) (tasks.filter (·.isPull))) scene
    (.ok (told.filter (·.1.isPull))) pulled
  /-- The server is asked for the same. -/
  asked : pulls pulled.world.server = pulls all.world.server
  /-- The clients have the same in the end, and so has every store. -/
  stored : pulled.world.clients = all.world.clients
  upkeep_alone : Call.Answers (doEach (Task.run server) (tasks.filter (!·.isPull))) scene
    (.ok (told.filter (!·.1.isPull))) kept
  recorded : records kept.world.server = records all.world.server

/-- Whatever the tasks are, those of one kind come to the same without the other. -/
def Undisturbed (server : ServerAccess σ) (pulls : σ → β) (records : σ → γ) : Prop :=
  ∀ (τ : Type) (tasks : List (Task τ)) (scene : Scene (Shared σ τ)),
    ∃ told all pulled kept, ComeApart server pulls records tasks scene told all pulled kept

theorem ServerAccess.Divides.undisturbed {δ κ : Type} {server : ServerAccess σ} {pulling : σ → β} {upkeep : σ → γ}
    (h : server.Divides pulling upkeep) {pulls : σ → δ} {records : σ → κ}
    (hpulls : ∀ s s', pulling s = pulling s' → pulls s = pulls s')
    (hrecords : ∀ s s', upkeep s = upkeep s' → records s = records s') : Undisturbed server pulls records := by
  intro τ tasks scene
  obtain ⟨told, all, pulled, hall, htold, hpulled, hsame⟩ := doEach_filter Task.isPull
    (fun _ hkind => (h.run_pull hkind).goesBy) (fun _ hkind => (h.run_upkeep hkind).keeps) tasks scene scene rfl
  obtain ⟨told', all', kept, hall', -, hkept, hsame'⟩ := doEach_filter (fun t => !t.isPull)
    (fun _ hkind => (h.run_upkeep (by simpa using hkind)).goesBy)
    (fun _ hkind => (h.run_pull (by simpa using hkind)).keeps) tasks scene scene rfl
  -- The two accounts are of the same run.
  obtain ⟨htold', rfl⟩ := hall.unique hall'
  obtain rfl := Except.ok.inj htold'
  obtain ⟨hserver, hclients⟩ := Prod.mk.inj hsame
  refine ⟨told, all, pulled, kept, ?_⟩
  constructor
  case together => exact hall
  case complete => exact htold
  case pulls_alone => exact hpulled
  case asked => exact (hpulls _ _ hserver).symm
  case stored => exact hclients.symm
  case upkeep_alone => exact hkept
  case recorded => exact (hrecords _ _ hsame').symm

end

/-! ## The two servers -/

namespace DirectoryServer

/-- What decides on the answer to a pull, and the pulls. -/
def pulling (s : DirectoryServer) : Table String (List NumberedObject) × Table Nat PullFault × List PullRequest :=
  (s.contexts, s.faults, s.pulls)

def upkeep (s : DirectoryServer) :
    Table String (List NumberedObject) × Table String (List String) × List SyncRequest × List RemovalRequest :=
  (s.contexts, s.controllers, s.syncs, s.removals)

theorem goesBy_checkHandle {β : Type} {f : DirectoryServer → β} (h : Handle) : (checkHandle h).GoesBy f := by
  unfold checkHandle
  split
  · exact Call.goesBy_pure _
  · exact Call.goesBy_throw _

theorem goesBy_contextObjects {β : Type} {f : DirectoryServer → β} (hf : ∀ s s', f s = f s' → s.contexts = s'.contexts)
    (context : String) : (contextObjects context).GoesBy f := by
  intro s s' hs
  have hcontexts := hf s s' hs
  cases hfound : s.contexts.get? context with
  | none => exact ⟨.error _, s, s', contextObjects_unknown hfound, contextObjects_unknown (hcontexts ▸ hfound), hs⟩
  | some objects => exact ⟨.ok _, s, s', contextObjects_ok hfound, contextObjects_ok (hcontexts ▸ hfound), hs⟩

theorem goesBy_pull (h : Handle) (r : PullRequest) : (pull h r).GoesBy pulling := by
  intro s s' hs
  have ⟨hcontexts, hrest⟩ := Prod.mk.inj hs
  have ⟨hfaults, hpulls⟩ := Prod.mk.inj hrest
  by_cases hh : h = handle
  · have hreply : replyTo s' r = replyTo s r := by
      unfold replyTo ahead
      rw [hcontexts, hfaults, hpulls]
    rw [hh]
    refine ⟨_, _, _, pull_answers s r, hreply ▸ pull_answers s' r, ?_⟩
    simp only [pulling, counted, hcontexts, hfaults, hpulls]
  · refine ⟨.error _, _, _, pull_stranger s r hh, pull_stranger s' r hh, ?_⟩
    simp only [pulling, hcontexts, hfaults, hpulls]

theorem goesBy_sync (h : Handle) (r : SyncRequest) : (sync h r).GoesBy upkeep := by
  refine Call.goesBy_bind (goesBy_checkHandle h) fun _ => ?_
  refine Call.goesBy_bind (goesBy_contextObjects (fun s s' hs => (Prod.mk.inj hs).1) _) fun _ => ?_
  refine Call.goesBy_modify fun s s' hs => ?_
  simp only [upkeep, Prod.mk.injEq] at hs ⊢
  simp only [hs, and_self]

theorem goesBy_remove (h : Handle) (r : RemovalRequest) : (remove h r).GoesBy upkeep := by
  intro s s' hs
  have hlists : s.controllersOf r.domain = s'.controllersOf r.domain := by
    unfold controllersOf
    rw [(Prod.mk.inj (Prod.mk.inj hs).2).1]
  have hrecorded : upkeep (s.recorded r) = upkeep (s'.recorded r) := by
    simp only [upkeep, recorded, Prod.mk.injEq] at hs ⊢
    simp only [hs, and_self]
  by_cases hh : h = handle
  case neg => exact ⟨.error _, s, s', remove_stranger hh, remove_stranger hh, hs⟩
  rw [hh]
  by_cases hlisted : r.server ∈ s.controllersOf r.domain
  case neg => exact ⟨.error _, _, _, remove_unlisted hlisted, remove_unlisted (hlists ▸ hlisted), hrecorded⟩
  cases hcommit : r.commit with
  | false =>
    exact ⟨.ok _, _, _, remove_checked hlisted hcommit, remove_checked (hlists ▸ hlisted) hcommit, hrecorded⟩
  | true =>
    have hremaining : s'.remaining r = s.remaining r := by
      unfold remaining
      rw [hlists]
    have hstruck : upkeep (s.struck r) = upkeep (s'.struck r) := by
      simp only [upkeep, struck, recorded, hremaining, Prod.mk.injEq] at hs ⊢
      simp only [hs, and_self]
    have hcarried : remove handle r s' = .ok ⟨(s'.remaining r).isEmpty⟩ (s'.struck r) :=
      remove_committed (hlists ▸ hlisted) hcommit
    rw [hremaining] at hcarried
    exact ⟨.ok _, _, _, remove_committed hlisted hcommit, hcarried, hstruck⟩

theorem divides : (Server.access : ServerAccess DirectoryServer).Divides pulling upkeep where
  pull := goesBy_pull
  sync := goesBy_sync
  remove := goesBy_remove
  keeps_pull := keeps_pull_of fun _ _ _ => rfl
  keeps_sync := keeps_sync_of fun _ _ => rfl
  keeps_remove := keeps_remove_of fun _ _ _ => rfl

end DirectoryServer

def ReceivedCall.isMaintenance : ReceivedCall → Bool
  | sync _ | remove _ => true
  | bind _ | pull _ => false

namespace ScriptedServer

def maintained (s : ScriptedServer) : List ReceivedCall := s.calls.filter (·.isMaintenance)

def pulling (s : ScriptedServer) : List (Except TransportError PullReply) × List PullRequest := (s.script, s.pulls)

def upkeep (s : ScriptedServer) : Option TransportError × List ReceivedCall := (s.maintenanceError, s.maintained)

theorem goesBy_pull (h : Handle) (r : PullRequest) :
    ((Server.access : ServerAccess ScriptedServer).pull h r).GoesBy pulling := by
  intro s s' hs
  obtain ⟨hscript, hpulls⟩ := Prod.mk.inj hs
  have hrun' := Script.pull_script h r s'
  rw [← hscript] at hrun'
  refine ⟨_, _, _, Script.pull_script h r s, hrun', ?_⟩
  simp only [pulling, Script.pulls_played, hpulls]
  rfl

theorem keeps_pull (h : Handle) (r : PullRequest) :
    ((Server.access : ServerAccess ScriptedServer).pull h r).Keeps upkeep := by
  intro s
  rw [(Script.pull_script h r s).after_eq]
  simp [upkeep, maintained, Script.played, ReceivedCall.isMaintenance]

theorem maintain_answers {α : Type} (c : ReceivedCall) (answer : α) (s : ScriptedServer) :
    (maintain c answer).Answers s (s.maintenanceError.elim (.ok answer) .error) (s.record c) := by
  unfold Call.Answers maintain
  cases herror : s.maintenanceError <;> simp [record, herror]

theorem goesBy_maintain {α : Type} (c : ReceivedCall) (answer : α) : (maintain c answer).GoesBy upkeep := by
  intro s s' hs
  obtain ⟨herror, hcalls⟩ := Prod.mk.inj hs
  have hrun' := maintain_answers c answer s'
  rw [← herror] at hrun'
  refine ⟨_, _, _, maintain_answers c answer s, hrun', ?_⟩
  unfold maintained at hcalls
  simp only [upkeep, maintained, record, List.filter_append, herror, hcalls]

theorem keeps_maintain {α : Type} {c : ReceivedCall} (hc : c.isMaintenance = true) (answer : α) :
    (maintain c answer).Keeps pulling := by
  intro s
  have hpulls : (s.record c).pulls = s.pulls := by
    unfold pulls record
    rw [List.filterMap_append]
    cases c with
    | bind | pull => contradiction
    | sync | remove => simp
  rw [(maintain_answers c answer s).after_eq, pulling, hpulls]
  rfl

theorem divides : (Server.access : ServerAccess ScriptedServer).Divides pulling upkeep where
  pull := goesBy_pull
  sync _ r := goesBy_maintain (.sync r) ()
  remove _ r := goesBy_maintain (.remove r) (RemovalResult.mk false)
  keeps_pull := keeps_pull
  keeps_sync _ r := keeps_maintain (c := .sync r) rfl ()
  keeps_remove _ r := keeps_maintain (c := .remove r) rfl (RemovalResult.mk false)

end ScriptedServer

/-- **Pulls and maintenance side by side.** -/
theorem tasks_undisturbed :
    Undisturbed Server.access ScriptedServer.pulls ScriptedServer.maintained ∧
      Undisturbed Server.access DirectoryServer.pulls fun s => (s.syncs, s.removals, s.controllersOf) := by
  constructor
  · exact ScriptedServer.divides.undisturbed (fun _ _ h => (Prod.mk.inj h).2) fun _ _ h => (Prod.mk.inj h).2
  · refine DirectoryServer.divides.undisturbed (fun s s' h => ?_) fun s s' h => ?_
    · exact (Prod.mk.inj (Prod.mk.inj h).2).2
    · simp only [DirectoryServer.upkeep, Prod.mk.injEq] at h
      have hlists : s.controllersOf = s'.controllersOf := by
        funext domain
        unfold DirectoryServer.controllersOf
        rw [h.2.1]
      rw [h.2.2.1, h.2.2.2, hlists]

end DirectoryPull
