import DirectoryPull.Proofs.Pull.Chain

/-!
# Pulls of read-only replicas

A pull for a read-only replica builds its attribute set before it sends anything, and every request it sends has that
set, if the layout has room for one. Any other pull does not ask the schema and sends no set.
-/

namespace DirectoryPull

open DirectoryPull.Action

/-! ## The set of a pull -/

namespace Exchange

def IsBase : Exchange → Prop
  | base _ => True
  | _ => False

/-- A build asks for the base of the schema first, and only once. -/
def OneBuild (es : List Exchange) : Prop :=
  ∃ answer rest, es = .base answer :: rest ∧ ∀ x ∈ rest, x.IsSchema ∧ ¬ x.IsBase

theorem OneBuild.isSchema {es : List Exchange} (h : OneBuild es) : ∀ x ∈ es, x.IsSchema := by
  obtain ⟨answer, rest, rfl, hrest⟩ := h
  exact List.forall_mem_cons.mpr ⟨trivial, fun x hx => (hrest x hx).1⟩

end Exchange

open Exchange

variable {W : Type}

theorem AttributeFilter.shows_build (schema : SchemaAccess W) :
    Shows (build schema) (build schema.watched) fun es _ => OneBuild es := by
  unfold build
  refine shows_ask_bind (fun base => ?_) fun e => ⟨_, [], rfl, by simp⟩
  have hopen : ∀ es result, Accounts base (fun x => x.IsSchema ∧ ¬ x.IsBase) Unusable es result →
      OneBuild (.base (.ok base) :: es) :=
    fun es (result : Except ReplicationError AttributeSet) hes => ⟨_, es, rfl, hes.kinds⟩
  refine Shows.mono ?_ hopen
  refine reports_bind (reports_ask (fun _ => ⟨trivial, not_false⟩) (fun _ => rfl) fun _ => rfl) fun entries => ?_
  refine reports_bind (reports_collect base schema (fun _ _ => ⟨trivial, not_false⟩) entries) fun ids => ?_
  exact reports_bind (reports_note _) fun _ => reports_pure _

namespace Session

/-- How a pull comes to its set: by one build that it makes to the end, or without asking the schema. -/
inductive Prepares (schema : SchemaAccess W) (options : PullOptions) (w : W) :
    List Exchange → Except ReplicationError (Option AttributeSet) → Prop
  | unfiltered (h : ¬ (options.readOnly = true ∧ options.schema = false)) :
    Prepares schema options w [] (.ok none)
  | filtered {asked : List Exchange} {built : Except ReplicationError AttributeSet} {w' : W}
      (h : options.readOnly = true ∧ options.schema = false)
      (hrun : ∀ log seen,
        Yields (AttributeFilter.build schema.watched) ⟨⟨w, seen⟩, log⟩ built ⟨w', seen ++ asked⟩)
      (hasked : OneBuild asked) :
    Prepares schema options w asked (built.map some)

theorem isFiltered_iff (options : PullOptions) :
    options.isFiltered = true ↔ options.readOnly = true ∧ options.schema = false := by
  simp [PullOptions.isFiltered]

theorem wanted_prepares (schema : SchemaAccess W) (options : PullOptions) (w : W) :
    ShowsFrom w (wanted schema options) (wanted schema.watched options) fun es result _ =>
      Prepares schema options w es result := by
  unfold wanted
  split
  · next h =>
    have hfiltered := (isFiltered_iff options).mp h
    refine (shows_iff.mp (AttributeFilter.shows_build schema) w).told.bind ?_ ?_
    · rintro set es w' ⟨hasked, hrun⟩
      refine showsFrom_pure ?_
      rw [List.append_nil]
      exact .filtered hfiltered hrun hasked
    · rintro e es w' ⟨hasked, hrun⟩
      exact .filtered hfiltered hrun hasked
  · next h => exact showsFrom_pure (.unfiltered (mt (isFiltered_iff options).mpr h))

/-! ## Its requests -/

/-- The request of a pull, from some cursor, or what is stored of its answer. -/
inductive Repeats (s : Session) (r : PullRequest) : Exchange → Prop
  | pull (cursor : Cursor) (answer : Except TransportError PullReply) :
    Repeats s r (.pull s.connection.handle (r.withCursor cursor) answer)
  | store (d : Delivery) (answer : Except ApplyError Unit) : Repeats s r (.store d answer)

variable {s : Session} {options : PullOptions} {r : PullRequest} {es : List Exchange}

theorem Repeats.withCursor {c : Cursor} {x : Exchange} (h : Repeats s (r.withCursor c) x) : Repeats s r x := by
  cases h with
  | pull cursor answer =>
    rw [PullRequest.withCursor_withCursor]
    exact .pull cursor answer
  | store d answer => exact .store d answer

theorem Turn.repeats {result : Except ReplicationError Chunk} (h : Turn s options r es result) :
    ∀ x ∈ es, Repeats s r x := by
  have hpull : ∀ answer, Repeats s r (.pull s.connection.handle r answer) := by
    intro answer
    have hself := Repeats.pull (s := s) (r := r) r.terms.cursor answer
    rwa [PullRequest.withCursor_self] at hself
  cases h with
  | refused | broken => simpa using hpull _
  | rejected | stored => simpa using ⟨hpull _, Repeats.store _ _⟩

theorem Turns.repeats {calls : Nat} {stats : PullStats} {result : Except ReplicationError (Option PullStats)}
    (h : Turns s options calls r stats es result) : ∀ x ∈ es, Repeats s r x := by
  induction h with
  | spent => simp
  | fails hturn | last hturn => exact hturn.repeats
  | more hturn _ _ ih => exact List.forall_mem_append.mpr ⟨hturn.repeats, fun x hx => (ih x hx).withCursor⟩

theorem Repeats.outward {x : Exchange} (h : Repeats s r x) : x.Outward := by
  cases h <;> exact not_false

theorem request_of_repeats {p : Pulled} (h : ∀ x ∈ es, Repeats s r x) (hp : p ∈ pulls es) :
    ∃ cursor, p.request = r.withCursor cursor := by
  unfold pulls at hp
  obtain ⟨x, hx, hpulled⟩ := List.mem_filterMap.mp hp
  cases h x hx with
  | pull cursor answer =>
    obtain rfl := Option.some.inj hpulled
    exact ⟨cursor, rfl⟩
  | store d answer => simp [pulled?] at hpulled

/-- What ensues once the set of a pull is there or not: its turns, or nothing but the error. -/
inductive Ensues (s : Session) (calls : Nat) (dn : String) (source destination : Guid) (options : PullOptions) :
    Except ReplicationError (Option AttributeSet) → List Exchange → Except ReplicationError (Option PullStats) → Prop
  | fails (e : ReplicationError) : Ensues s calls dn source destination options (.error e) [] (.error e)
  | turns {set : Option AttributeSet} {stats : PullStats} {told : List Exchange}
      {result : Except ReplicationError (Option PullStats)}
      (h : Turns s options calls (firstRequest s dn source destination options set) stats told result) :
    Ensues s calls dn source destination options (.ok set) told result

theorem replicate_ensues (peers : Peers W) (s : Session) (calls : Nat) (dn : String) (source destination : Guid)
    (options : PullOptions) (w : W) :
    ShowsFrom w (replicate peers s calls dn source destination options)
      (replicate peers.watched s calls dn source destination options) fun es result _ =>
        ∃ asked prepared told, es = asked ++ told ∧ Prepares peers.schema options w asked prepared ∧
          Ensues s calls dn source destination options prepared told result := by
  refine showsFrom_replicate peers s calls dn source destination options (wanted_prepares peers.schema options w) ?_ ?_
  · exact fun set asked w' told result w'' hprepares hturns =>
      ⟨asked, .ok set, told, rfl, hprepares, .turns hturns⟩
  · exact fun e asked w' hprepares => ⟨asked, .error e, [], (List.append_nil _).symm, hprepares, .fails e⟩

/-! ## What they carry -/

/-- What a request carries of the options of its pull and of the set that was prepared. -/
structure Carries (s : Session) (options : PullOptions) (set : Option AttributeSet) (r : PullRequest) : Prop where
  wanted : r.wanted = if Extensions.supportsRequestV8 s.connection.extensions then set else none
  restricted : r.wanted ≠ none ↔
    options.readOnly = true ∧ options.schema = false ∧ Extensions.supportsRequestV8 s.connection.extensions = true
  bare : ∀ terms filter, r = .full terms filter → filter.wantedToo = none ∧ filter.prefixes = []
  secrets : options.flags = none → options.operation ≠ .replicateSecret →
    r.terms.flags.contains ReplicaFlags.withholdSecrets = options.readOnly ∧
      r.terms.flags.contains ReplicaFlags.writable = !options.readOnly

theorem sentFlags_secrets (hflags : options.flags = none) (hoperation : options.operation ≠ .replicateSecret) :
    options.sentFlags.contains ReplicaFlags.withholdSecrets = options.readOnly ∧
      options.sentFlags.contains ReplicaFlags.writable = !options.readOnly := by
  unfold PullOptions.sentFlags
  simp only [hflags, if_neg hoperation]
  cases options.readOnly <;> decide

theorem Prepares.set_ne_none {schema : SchemaAccess W} {w : W} {set : Option AttributeSet}
    (h : Prepares schema options w es (.ok set)) :
    set ≠ none ↔ options.readOnly = true ∧ options.schema = false := by
  generalize hprepared : (.ok set : Except ReplicationError (Option AttributeSet)) = prepared at h
  cases h with
  | unfiltered hnot =>
    obtain rfl := Except.ok.inj hprepared
    simpa using hnot
  | @filtered _ built _ hfiltered =>
    cases built with
    | error e => simp [Except.map] at hprepared
    | ok built =>
      obtain rfl := Except.ok.inj hprepared
      simpa using hfiltered

theorem carries_firstRequest {set : Option AttributeSet}
    (hset : set ≠ none ↔ options.readOnly = true ∧ options.schema = false) (dn : String) (source destination : Guid)
    (cursor : Cursor) :
    Carries s options set ((firstRequest s dn source destination options set).withCursor cursor) := by
  constructor
  case wanted =>
    unfold firstRequest request
    split <;> rfl
  case restricted =>
    rw [← and_assoc, ← hset]
    unfold firstRequest request
    split <;> simp_all [PullRequest.wanted, PullRequest.withCursor]
  case bare =>
    intro terms filter hfull
    unfold firstRequest request at hfull
    split at hfull
    · obtain ⟨-, rfl⟩ := PullRequest.full.inj hfull
      exact ⟨rfl, rfl⟩
    · simp [PullRequest.withCursor] at hfull
  case secrets =>
    intro hflags hoperation
    rw [PullRequest.terms_withCursor, firstRequest_terms]
    exact sentFlags_secrets hflags hoperation

/-- **The filter of a pull.** -/
theorem replicate_filtered (peers : Peers W) (s : Session) (calls : Nat) (dn : String) (source destination : Guid)
    (options : PullOptions) (w : W) :
    ∃ asked prepared told result after,
      (∀ log, Yields (replicate peers s calls dn source destination options) ⟨w, log⟩ result after) ∧
      (∀ log seen, Yields (replicate peers.watched s calls dn source destination options) ⟨⟨w, seen⟩, log⟩ result
        ⟨after, seen ++ (asked ++ told)⟩) ∧
      Prepares peers.schema options w asked prepared ∧ (∀ x ∈ told, x.Outward) ∧
      (∀ e, prepared = .error e → told = [] ∧ result = .error e) ∧
      ∀ set, prepared = .ok set → ∀ p ∈ pulls told, Carries s options set p.request := by
  obtain ⟨_, result, after, hrun, hseen, asked, prepared, told, rfl, hprepares, hensues⟩ :=
    replicate_ensues peers s calls dn source destination options w
  refine ⟨asked, prepared, told, result, after, hrun, hseen, hprepares, ?_⟩
  cases hensues with
  | fails e =>
    refine ⟨by simp, ?_, by simp⟩
    rintro e' heq
    exact ⟨rfl, by rw [Except.error.inj heq]⟩
  | turns hturns =>
    refine ⟨fun x hx => (hturns.repeats x hx).outward, by simp, ?_⟩
    rintro set' heq p hp
    obtain rfl := Except.ok.inj heq
    obtain ⟨cursor, hcursor⟩ := request_of_repeats hturns.repeats hp
    rw [hcursor]
    exact carries_firstRequest hprepares.set_ne_none dn source destination cursor

end Session

end DirectoryPull
