import DirectoryPull.Proofs.Server.Numbering

/-!
# Removals

A request takes a server out of a domain, or only checks whether it could. Both fail alike, but a check never tells
that the server is the last one of its domain.
-/

namespace DirectoryPull.DirectoryServer

open Call

/-! ## The lists of the domains -/

section

variable (s : DirectoryServer) (r : RemovalRequest)

/-- What is left of a domain once the request is carried out. -/
def remaining : List String := (s.controllersOf r.domain).filter (· ≠ r.server)

def recorded : DirectoryServer := { s with removals := s.removals ++ [r] }

def struck : DirectoryServer := { s.recorded r with controllers := s.controllers.insert r.domain (s.remaining r) }

theorem controllersOf_insert (domain : String) (listed : List String) (d : String) :
    { s with controllers := s.controllers.insert domain listed }.controllersOf d =
      if d = domain then listed else s.controllersOf d := by
  unfold controllersOf
  split
  · next h =>
    rw [h, Table.get?_insert_self]
    rfl
  · next h => rw [Table.get?_insert_of_ne _ _ h]

theorem controllersOf_addController (domain server d : String) :
    (s.addController domain server).controllersOf d =
      if d = domain then s.controllersOf d ++ [server] else s.controllersOf d := by
  unfold addController
  rw [controllersOf_insert]
  split
  · next h => rw [h]
  · rfl

theorem controllersOf_struck (d : String) :
    (s.struck r).controllersOf d = if d = r.domain then s.remaining r else s.controllersOf d :=
  controllersOf_insert (s.recorded r) r.domain (s.remaining r) d

end

/-! ## One request -/

section

variable {s : DirectoryServer} {r : RemovalRequest}

theorem remove_stranger {h : Handle} (hh : h ≠ handle) :
    remove h r s = .error (.fault invalidHandle "invalid handle") s := by
  unfold remove checkHandle
  rw [if_neg hh]
  rfl

theorem remove_recorded : remove handle r s = ((do
    if !(s.controllersOf r.domain).contains r.server then
      Call.fault noSuchServer s!"{r.server} is not a server of {r.domain}"
    if r.commit then set (s.struck r)
    return ⟨(if r.commit then s.remaining r else s.controllersOf r.domain).isEmpty⟩) :
      Call DirectoryServer TransportError RemovalResult) (s.recorded r) := by
  unfold remove checkHandle
  rw [if_pos rfl]
  rfl

theorem remove_unlisted (h : r.server ∉ s.controllersOf r.domain) : remove handle r s =
    .error (.fault noSuchServer s!"{r.server} is not a server of {r.domain}") (s.recorded r) := by
  have hlisted : (s.controllersOf r.domain).contains r.server = false := by simpa using h
  rw [remove_recorded, hlisted]
  rfl

section

variable (h : r.server ∈ s.controllersOf r.domain)
include h

theorem remove_committed (hcommit : r.commit = true) :
    remove handle r s = .ok ⟨(s.remaining r).isEmpty⟩ (s.struck r) := by
  have hlisted : (s.controllersOf r.domain).contains r.server = true := by simpa using h
  rw [remove_recorded, hlisted, hcommit]
  rfl

theorem remove_checked (hcommit : r.commit = false) : remove handle r s = .ok ⟨false⟩ (s.recorded r) := by
  have hlisted : (s.controllersOf r.domain).contains r.server = true := by simpa using h
  have hrun : remove handle r s = .ok ⟨(s.controllersOf r.domain).isEmpty⟩ (s.recorded r) := by
    rw [remove_recorded, hlisted, hcommit]
    rfl
  rw [hrun, List.isEmpty_eq_false_iff.mpr (List.ne_nil_of_mem h)]

end

theorem remaining_eq_nil : s.remaining r = [] ↔ ∀ other ∈ s.controllersOf r.domain, other = r.server := by
  simp [remaining]

end

/-! ## A check beside the removal -/

/-- The domain has this server and no other. -/
def Sole (s : DirectoryServer) (server domain : String) : Prop :=
  server ∈ s.controllersOf domain ∧ ∀ other ∈ s.controllersOf domain, other = server

/-- What a check comes to, and what the removal would come to in its place. -/
structure Foretold (s : DirectoryServer) (h : Handle) (server domain : String)
    (checked carried : Except TransportError RemovalResult) : Prop where
  errors : ∀ e, checked = .error e ↔ carried = .error e
  /-- The answers differ just where the last server of a domain is taken out of it. -/
  same : checked = carried ↔ ¬ (h = handle ∧ s.Sole server domain)
  sole : h = handle → s.Sole server domain → checked = .ok ⟨false⟩ ∧ carried = .ok ⟨true⟩

section

variable {s : DirectoryServer} {server domain : String}

theorem foretold_failed {h : Handle} (hother : ¬ (h = handle ∧ s.Sole server domain)) (e : TransportError) :
    Foretold s h server domain (.error e) (.error e) where
  errors _ := Iff.rfl
  same := iff_of_true rfl hother
  sole hown hsole := absurd ⟨hown, hsole⟩ hother

theorem foretold_listed (hlisted : server ∈ s.controllersOf domain) :
    Foretold s handle server domain (.ok ⟨false⟩) (.ok ⟨(s.remaining ⟨server, domain, true⟩).isEmpty⟩) := by
  have hempty : (s.remaining ⟨server, domain, true⟩).isEmpty = true ↔ s.Sole server domain := by
    rw [List.isEmpty_iff, remaining_eq_nil]
    simp [Sole, hlisted]
  constructor
  case errors => simp
  case same =>
    rw [← hempty]
    cases (s.remaining ⟨server, domain, true⟩).isEmpty <;> simp
  case sole =>
    intro _ hsole
    rw [hempty.mpr hsole]
    exact ⟨rfl, rfl⟩

variable (s server domain)

/-- **Checks.** No list changes, and the check foretells the removal as far as errors go, and beyond them unless the
server is the only one of its domain. -/
theorem remove_foretold (h : Handle) :
    ∃ checked carried t t', (remove h ⟨server, domain, false⟩).Answers s checked t ∧
      (remove h ⟨server, domain, true⟩).Answers s carried t' ∧ (∀ d, t.controllersOf d = s.controllersOf d) ∧
      Foretold s h server domain checked carried := by
  by_cases hh : h = handle
  · rw [hh]
    by_cases hlisted : server ∈ s.controllersOf domain
    · exact ⟨.ok _, .ok _, _, _, remove_checked hlisted rfl, remove_committed hlisted rfl, fun _ => rfl,
        foretold_listed hlisted⟩
    · exact ⟨.error _, .error _, _, _, remove_unlisted hlisted, remove_unlisted hlisted, fun _ => rfl,
        foretold_failed (fun hsole => hlisted hsole.2.1) _⟩
  · exact ⟨.error _, .error _, _, _, remove_stranger hh, remove_stranger hh, fun _ => rfl,
      foretold_failed (fun hsole => hh hsole.1) _⟩

end

/-- The only server of its domain is taken out of it, and the check before had not said that it was the last one. -/
theorem sole_not_foretold :
    Reachable (full.addController "DC=a" "CN=DC1") ∧
      (∃ t, remove handle ⟨"CN=DC1", "DC=a", false⟩ (full.addController "DC=a" "CN=DC1") = .ok ⟨false⟩ t) ∧
      ∃ t, remove handle ⟨"CN=DC1", "DC=a", true⟩ (full.addController "DC=a" "CN=DC1") = .ok ⟨true⟩ t :=
  ⟨(Reachable.fresh _).step (.addController "DC=a" "CN=DC1") trivial, ⟨_, rfl⟩, ⟨_, rfl⟩⟩

end DirectoryPull.DirectoryServer
