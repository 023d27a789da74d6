import DirectoryPull.Proofs.Frame
import DirectoryPull.Server.Directory

/-!
# Calls to a directory server

What each call answers and what it leaves behind. Pulls count and use up their faults whether they succeed or
not; no call changes what the server holds.
-/

namespace DirectoryPull.DirectoryServer

open Call

/-! ## Pulls -/

/-- The server once a pull is counted and its fault is used up. -/
def counted (s : DirectoryServer) (r : PullRequest) : DirectoryServer :=
  { s with pulls := s.pulls ++ [r], faults := s.faults.erase s.pulls.length }

/-- The fault in store for a pull after so many others. -/
def ahead (s : DirectoryServer) (i : Nat) : Option PullFault := s.faults.get? (s.pulls.length + i)

/-- The answer to a pull whose fault is known. -/
def answer (r : PullRequest) (fault : Option PullFault) : Call DirectoryServer TransportError PullReply := do
  if let some (.error e) := fault then throw e
  let objects ← contextObjects r.terms.context.dn
  return ⟨replyLevel r, PullFault.spoil (page objects r) fault⟩

theorem keeps_contextObjects {β : Type} {f : DirectoryServer → β} (context : String) :
    (contextObjects context).Keeps f := by
  refine keeps_bind keeps_get fun s => ?_
  split
  · exact keeps_pure _
  · exact keeps_throw _

theorem keeps_answer {β : Type} {f : DirectoryServer → β} (r : PullRequest) (fault : Option PullFault) :
    (answer r fault).Keeps f := by
  have hpage : Keeps f (do
      let objects ← contextObjects r.terms.context.dn
      return PullReply.mk (replyLevel r) (PullFault.spoil (page objects r) fault)) :=
    keeps_bind (keeps_contextObjects _) fun _ => keeps_pure _
  cases fault with
  | none => exact hpage
  | some fault =>
    cases fault with
    | error e => exact keeps_bind (keeps_throw e) fun _ => hpage
    | dropObjects | rewindCursor => exact hpage

variable (s : DirectoryServer) (r : PullRequest)

theorem pull_eq : pull handle r s = answer r (s.ahead 0) (s.counted r) := rfl

theorem pull_stranger {h : Handle} (hh : h ≠ handle) :
    pull h r s = .error (.fault invalidHandle "invalid handle") { s with pulls := s.pulls ++ [r] } := by
  unfold pull checkHandle
  rw [if_neg hh]
  rfl

theorem after_pull : (pull handle r).after s = s.counted r := by
  have : (pull handle r).after s = (answer r (s.ahead 0)).after (s.counted r) := by
    rw [after, pull_eq]
    rfl
  have hkeep : Keeps id (answer r (s.ahead 0)) := keeps_answer r _
  rw [this]
  exact hkeep (s.counted r)

variable {s r}

theorem pull_error {e : TransportError} (hf : s.ahead 0 = some (.error e)) :
    pull handle r s = .error e (s.counted r) := by
  rw [pull_eq, hf]
  rfl

theorem contextObjects_ok {context : String} {objects : List NumberedObject}
    (h : s.contexts.get? context = some objects) : contextObjects context s = .ok objects s := by
  unfold contextObjects
  rw [get_bind, h]
  rfl

theorem contextObjects_unknown {context : String} (h : s.contexts.get? context = none) :
    contextObjects context s = .error (.fault badContext s!"naming context {context} not found") s := by
  unfold contextObjects
  rw [get_bind, h]
  rfl

/-- The answer to a pull with the server's own handle. -/
def replyTo (s : DirectoryServer) (r : PullRequest) : Except TransportError PullReply :=
  match s.ahead 0 with
  | some (.error e) => .error e
  | fault =>
    match s.contexts.get? r.terms.context.dn with
    | none => .error (.fault badContext s!"naming context {r.terms.context.dn} not found")
    | some objects => .ok ⟨replyLevel r, PullFault.spoil (page objects r) fault⟩

variable (s r) in
theorem pull_answers : (pull handle r).Answers s (replyTo s r) (s.counted r) := by
  unfold Answers replyTo
  rw [pull_eq]
  cases hc : s.contexts.get? r.terms.context.dn with
  | none =>
    have hobjects := contextObjects_unknown (s := s.counted r) hc
    rcases s.ahead 0 with _ | _ | _ | _
    case some.error => rfl
    all_goals simp only [answer, Bind.bind, EStateM.bind, hobjects]
  | some objects =>
    have hobjects := contextObjects_ok (s := s.counted r) hc
    rcases s.ahead 0 with _ | _ | _ | _
    case some.error => rfl
    all_goals simp only [answer, Bind.bind, EStateM.bind, hobjects, pure, EStateM.pure]

theorem replyTo_page {objects : List NumberedObject} (hc : s.contexts.get? r.terms.context.dn = some objects)
    {fault : Option PullFault} (hf : s.ahead 0 = fault) (hok : ∀ e, fault ≠ some (.error e)) :
    replyTo s r = .ok ⟨replyLevel r, PullFault.spoil (page objects r) fault⟩ := by
  unfold replyTo
  rw [hf, hc]
  rcases fault with _ | e | _ | _
  case some.error => exact absurd rfl (hok e)
  all_goals rfl

theorem pull_page {objects : List NumberedObject} (hc : s.contexts.get? r.terms.context.dn = some objects)
    {fault : Option PullFault} (hf : s.ahead 0 = fault) (hok : ∀ e, fault ≠ some (.error e)) :
    pull handle r s = .ok ⟨replyLevel r, PullFault.spoil (page objects r) fault⟩ (s.counted r) := by
  have hanswers := pull_answers s r
  rw [replyTo_page hc hf hok] at hanswers
  exact hanswers

theorem replyTo_ok {reply : PullReply} (h : replyTo s r = .ok reply) :
    ∃ objects, s.contexts.get? r.terms.context.dn = some objects ∧
      reply = ⟨replyLevel r, PullFault.spoil (page objects r) (s.ahead 0)⟩ := by
  unfold replyTo at h
  split at h
  · contradiction
  · split at h
    · contradiction
    · next objects hc =>
      cases h
      exact ⟨objects, hc, rfl⟩

/-! ## Pull after pull -/

/-- What calls only read. -/
def holdings (s : DirectoryServer) : Table String (List NumberedObject) × UInt64 := (s.contexts, s.nextUsn)

/-- What calls other than pulls only read. -/
def stock (s : DirectoryServer) : (Table String (List NumberedObject) × UInt64) × Table Nat PullFault :=
  (s.holdings, s.faults)

/-- The server once some pulls are counted. -/
def served (s : DirectoryServer) (rs : List PullRequest) : DirectoryServer := rs.foldl counted s

theorem served_snoc (s : DirectoryServer) (rs : List PullRequest) (r : PullRequest) :
    s.served (rs ++ [r]) = (s.served rs).counted r := by
  rw [served, List.foldl_append]
  rfl

theorem served_pulls (s : DirectoryServer) (rs : List PullRequest) : (s.served rs).pulls = s.pulls ++ rs := by
  induction rs generalizing s with
  | nil => rw [List.append_nil]; rfl
  | cons r rs ih => rw [served, List.foldl_cons, ← served, ih, counted, List.append_assoc]; rfl

theorem served_holdings (s : DirectoryServer) (rs : List PullRequest) : (s.served rs).holdings = s.holdings := by
  induction rs generalizing s with
  | nil => rfl
  | cons r rs ih => exact ih (s.counted r)

theorem ahead_counted (s : DirectoryServer) (r : PullRequest) (i : Nat) : (s.counted r).ahead i = s.ahead (i + 1) := by
  have hother : s.pulls.length + (i + 1) ≠ s.pulls.length := by omega
  have hcall : (s.counted r).pulls.length + i = s.pulls.length + (i + 1) := by
    rw [counted, List.length_append, List.length_singleton]
    omega
  rw [ahead, hcall, counted, Table.get?_erase_of_ne _ hother, ahead]

theorem ahead_served (s : DirectoryServer) (rs : List PullRequest) (i : Nat) :
    (s.served rs).ahead i = s.ahead (rs.length + i) := by
  induction rs generalizing s with
  | nil => rw [List.length_nil, Nat.zero_add]; rfl
  | cons r rs ih =>
    rw [served, List.foldl_cons, ← served, ih, ahead_counted, List.length_cons]
    congr 1
    omega

/-! ## Calls of every kind -/

theorem keeps_checkHandle {β : Type} {f : DirectoryServer → β} (h : Handle) : (checkHandle h).Keeps f := by
  unfold checkHandle
  split
  · exact keeps_pure _
  · exact keeps_throw _

theorem keeps_pull_of {β : Type} {f : DirectoryServer → β}
    (hf : ∀ s pulls faults, f { s with pulls := pulls, faults := faults } = f s) (h : Handle) (r : PullRequest) :
    (pull h r).Keeps f := by
  intro s
  by_cases hh : h = handle
  · rw [hh, after_pull]
    exact hf s _ _
  · rw [after, pull_stranger s r hh]
    exact hf s _ s.faults

theorem keeps_pull (h : Handle) (r : PullRequest) : (pull h r).Keeps holdings := keeps_pull_of (fun _ _ _ => rfl) h r

/-- The answer to a bind whose error is known. -/
def greet (interface : Guid) (info : BindInfo) (error : Option TransportError) :
    Call DirectoryServer TransportError (Handle × BindInfo) := do
  if let some e := error then throw e
  if interface ≠ .bindInterface then Call.fault unknownInterface s!"unknown bind guid {interface.text}"
  return (handle, .ofExtensions (info.extensions.inter (← get).extensions))

theorem keeps_greet {β : Type} {f : DirectoryServer → β} (interface : Guid) (info : BindInfo)
    (error : Option TransportError) : (greet interface info error).Keeps f := by
  intro s
  cases error with
  | some e => rfl
  | none =>
    unfold after greet
    by_cases hi : interface = .bindInterface
    · rw [hi]
      rfl
    · rw [if_pos hi]
      rfl

section

variable {interface : Guid} {info answer : BindInfo} {h : Handle} {t : DirectoryServer}

theorem greet_ok {error : Option TransportError} (hr : greet interface info error s = .ok (h, answer) t) :
    h = handle ∧ answer.extensions = info.extensions.inter s.extensions := by
  cases error with
  | some e => contradiction
  | none =>
    unfold greet at hr
    by_cases hi : interface = .bindInterface
    · rw [hi] at hr
      cases hr
      exact ⟨rfl, rfl⟩
    · rw [if_pos hi] at hr
      contradiction

theorem bindCall_ok (hr : DirectoryServer.bind interface info s = .ok (h, answer) t) :
    h = handle ∧ answer.extensions = info.extensions.inter s.extensions := by
  obtain ⟨_, noted, hnoted, hr⟩ := bind_ok hr
  obtain ⟨error, taken, htaken, hr⟩ := bind_ok hr
  have hgreeted : h = handle ∧ answer.extensions = info.extensions.inter taken.extensions := greet_ok hr
  cases hnoted
  cases htaken
  exact hgreeted

end

section

variable {β : Type} {f : DirectoryServer → β}

theorem keeps_bindCall_of (hf : ∀ s binds errors, f { s with binds := binds, bindErrors := errors } = f s)
    (interface : Guid) (info : BindInfo) : (DirectoryServer.bind interface info).Keeps f := by
  refine keeps_bind (keeps_modify fun s => hf s _ s.bindErrors) fun _ => ?_
  refine keeps_bind (keeps_modifyGet fun s => hf s s.binds _) fun error => ?_
  exact keeps_greet interface info error

theorem keeps_sync_of (hf : ∀ s syncs, f { s with syncs := syncs } = f s) (h : Handle) (r : SyncRequest) :
    (sync h r).Keeps f := by
  refine keeps_bind (keeps_checkHandle h) fun _ => ?_
  refine keeps_bind (keeps_contextObjects _) fun _ => ?_
  exact keeps_modify fun s => hf s _

theorem keeps_remove_of
    (hf : ∀ s removals controllers, f { s with removals := removals, controllers := controllers } = f s)
    (h : Handle) (r : RemovalRequest) : (remove h r).Keeps f := by
  refine keeps_bind (keeps_checkHandle h) fun _ => ?_
  refine keeps_bind (keeps_modify fun s => hf s _ s.controllers) fun _ => ?_
  -- What is written back is what was read, so the state has to be followed here.
  intro s
  rw [after, get_bind]
  dsimp only
  cases (s.controllersOf r.domain).contains r.server <;> cases r.commit
  case true.true => exact hf s s.removals _
  all_goals rfl

end

theorem keeps_bindCall (interface : Guid) (info : BindInfo) : (DirectoryServer.bind interface info).Keeps stock :=
  keeps_bindCall_of (fun _ _ _ => rfl) interface info

theorem keeps_sync (h : Handle) (r : SyncRequest) : (sync h r).Keeps stock := keeps_sync_of (fun _ _ => rfl) h r

theorem keeps_remove (h : Handle) (r : RemovalRequest) : (remove h r).Keeps stock :=
  keeps_remove_of (fun _ _ _ => rfl) h r

/-! ## The handle -/

/-- The calls that carry the server's handle: their errors are arranged, or about names that the server does not know,
and never about the handle. -/
structure Admits (a : DirectoryServer) : Prop where
  handle : checkHandle DirectoryServer.handle a = .ok () a
  pull : ∀ r e a', DirectoryServer.pull DirectoryServer.handle r a = .error e a' →
    a.ahead 0 = some (.error e) ∨ ∃ text, e = .fault badContext text
  sync : ∀ r e a', DirectoryServer.sync DirectoryServer.handle r a = .error e a' → ∃ text, e = .fault badContext text
  remove : ∀ r e a', DirectoryServer.remove DirectoryServer.handle r a = .error e a' →
    ∃ text, e = .fault noSuchServer text

theorem checkHandle_own (a : DirectoryServer) : checkHandle DirectoryServer.handle a = .ok () a := by
  unfold checkHandle
  rw [if_pos rfl]
  rfl

theorem contextObjects_error {context : String} {e : TransportError} {a a' : DirectoryServer}
    (h : contextObjects context a = .error e a') : ∃ text, e = .fault badContext text := by
  cases hcontext : a.contexts.get? context with
  | none =>
    rw [contextObjects_unknown hcontext] at h
    cases h
    exact ⟨_, rfl⟩
  | some objects =>
    rw [contextObjects_ok hcontext] at h
    contradiction

theorem admits (a : DirectoryServer) : a.Admits := by
  constructor
  case handle => exact checkHandle_own a
  case pull =>
    intro r e a' hcall
    have hanswers := pull_answers a r
    unfold Answers replyTo at hanswers
    rw [hcall] at hanswers
    split at hanswers
    · contradiction
    next heq =>
    cases hanswers
    split at heq
    · cases heq
      exact Or.inl ‹_›
    · split at heq
      · cases heq
        exact Or.inr ⟨_, rfl⟩
      · contradiction
  case sync =>
    intro r e a' hcall
    unfold DirectoryServer.sync at hcall
    rcases bind_error hcall with hcheck | ⟨_, _, -, hcall⟩
    · rw [checkHandle_own] at hcheck
      contradiction
    rcases bind_error hcall with hcontext | ⟨_, _, -, hcall⟩
    · exact contextObjects_error hcontext
    · contradiction
  case remove =>
    intro r e a' hcall
    unfold DirectoryServer.remove at hcall
    rcases bind_error hcall with hcheck | ⟨_, _, -, hcall⟩
    · rw [checkHandle_own] at hcheck
      contradiction
    rcases bind_error hcall with hnoted | ⟨_, noted, -, hcall⟩
    · contradiction
    rw [get_bind] at hcall
    dsimp only at hcall
    split at hcall
    · cases hcall
      exact ⟨_, rfl⟩
    · split at hcall <;> contradiction

end DirectoryPull.DirectoryServer
