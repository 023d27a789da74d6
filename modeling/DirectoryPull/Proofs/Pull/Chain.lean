import DirectoryPull.Proofs.Client.Reports
import Mathlib.Data.List.Chain

/-!
# The requests of a pull

Each request of a pull is the one before it, asked again from the cursor of the reply. So no request is behind an
earlier one, and what the store keeps of a chunk tells the cursors of the request in question and of the next.
-/

namespace DirectoryPull

open DirectoryPull.Action

/-! ## What exchanges tell -/

structure Pulled where
  request : PullRequest
  answer : Except TransportError PullReply

namespace Exchange

def pulled? : Exchange → Option Pulled
  | pull _ r answer => some ⟨r, answer⟩
  | _ => none

/-- What the store keeps, if it takes the chunk. -/
def kept? : Exchange → Option StoredChunk
  | store d (.ok _) => some d.stored
  | _ => none

def pulls (es : List Exchange) : List Pulled := es.filterMap pulled?

def kept (es : List Exchange) : List StoredChunk := es.filterMap kept?

variable {es : List Exchange}

theorem pulls_append (es es' : List Exchange) : pulls (es ++ es') = pulls es ++ pulls es' := List.filterMap_append

theorem kept_append (es es' : List Exchange) : kept (es ++ es') = kept es ++ kept es' := List.filterMap_append

theorem IsSchema.aside {x : Exchange} (h : x.IsSchema) : x.pulled? = none ∧ x.kept? = none := by
  cases x with
  | base | search | resolve => exact ⟨rfl, rfl⟩
  | _ => exact h.elim

theorem IsSchema.failure {x : Exchange} (h : x.IsSchema) {target : String} {e : ReplicationError}
    (hfailure : x.failure? target = some e) : ∃ cause, e = .schema cause := by
  cases x with
  | base answer | search _ answer | resolve _ answer =>
    cases answer with
    | error cause => exact ⟨cause, (Option.some.inj hfailure).symm⟩
    | ok => contradiction
  | _ => exact h.elim

theorem pulls_schema (h : ∀ x ∈ es, x.IsSchema) : pulls es = [] :=
  List.filterMap_eq_nil_iff.mpr fun x hx => (h x hx).aside.1

theorem kept_schema (h : ∀ x ∈ es, x.IsSchema) : kept es = [] :=
  List.filterMap_eq_nil_iff.mpr fun x hx => (h x hx).aside.2

end Exchange

open Exchange

namespace Cursor

theorem le_refl (c : Cursor) : c ≤ c := ⟨UInt64.le_refl _, UInt64.le_refl _, UInt64.le_refl _⟩

theorem le_trans {c d e : Cursor} (h : c ≤ d) (h' : d ≤ e) : c ≤ e :=
  ⟨UInt64.le_trans h.1 h'.1, UInt64.le_trans h.2.1 h'.2.1, UInt64.le_trans h.2.2 h'.2.2⟩

end Cursor

theorem Chunk.forward_of_breach {cursor : Cursor} {c : Chunk} (h : c.breach? cursor = none) : cursor ≤ c.newCursor := by
  by_contra hback
  by_cases hmissing : c.count ≠ 0 ∧ c.chain = []
  · rw [breach_missing hmissing] at h
    contradiction
  · rw [breach_back hmissing hback] at h
    contradiction

/-! ## Links -/

/-- A request is the one before it, from the cursor of the reply. -/
def Pulled.Follows (p q : Pulled) : Prop :=
  ∃ reply, p.answer = .ok reply ∧ q.request = p.request.withCursor reply.chunk.newCursor

theorem Pulled.follows_of_chain {ps : List Pulled} {p q : Pulled} {k : Nat} (h : ps.IsChain Follows)
    (hp : ps[k]? = some p) (hq : ps[k + 1]? = some q) : p.Follows q := by
  obtain ⟨_, rfl⟩ := List.getElem?_eq_some_iff.mp hp
  obtain ⟨hk, rfl⟩ := List.getElem?_eq_some_iff.mp hq
  exact List.isChain_iff_getElem.mp h k hk

def Pulled.replies (ps : List Pulled) : List PullReply := ps.filterMap (·.answer.toOption)

def Pulled.Below (p q : Pulled) : Prop := p.request.terms.cursor ≤ q.request.terms.cursor

/-- Pulls that begin with a request, what is kept of them, and what they come to. -/
structure Linked (schema : Bool) (r : PullRequest) (ps : List Pulled) (ks : List StoredChunk)
    (result : Except ReplicationError (Option PullStats)) : Prop where
  head : ∀ p ∈ ps.head?, p.request = r
  next : ps.IsChain Pulled.Follows
  floor : ∀ p ∈ ps, r.terms.cursor ≤ p.request.terms.cursor
  ascending : ps.Pairwise Pulled.Below
  kept : ∀ (k : Nat) (c : StoredChunk), ks[k]? = some c → ∃ (r' : PullRequest) (reply : PullReply),
    ps[k]? = some ⟨r', .ok reply⟩ ∧ c = Delivery.stored ⟨reply.level, reply.chunk, schema, r'⟩
  top : ∀ stats, result = .ok (some stats) → r.terms.cursor ≤ stats.cursor ∧
    ∀ p ∈ ps, p.request.terms.cursor ≤ stats.cursor

section

variable {schema : Bool} {r : PullRequest} {reply : PullReply} {ps : List Pulled} {ks : List StoredChunk}
  {result : Except ReplicationError (Option PullStats)}

theorem linked_nil (h : ∀ stats, result = .ok (some stats) → r.terms.cursor ≤ stats.cursor) :
    Linked schema r [] [] result where
  head := by simp
  next := .nil
  floor := by simp
  ascending := .nil
  kept := by simp
  top stats hstats := ⟨h stats hstats, by simp⟩

theorem linked_single (answer : Except TransportError PullReply) (h : ∀ stats, result ≠ .ok (some stats)) :
    Linked schema r [⟨r, answer⟩] [] result where
  head := by simp
  next := .singleton _
  floor := by simp [Cursor.le_refl]
  ascending := List.pairwise_singleton _ _
  kept := by simp
  top stats hstats := absurd hstats (h stats)

theorem Linked.cons (hforward : r.terms.cursor ≤ reply.chunk.newCursor)
    (h : Linked schema (r.withCursor reply.chunk.newCursor) ps ks result) :
    Linked schema r (⟨r, .ok reply⟩ :: ps) (Delivery.stored ⟨reply.level, reply.chunk, schema, r⟩ :: ks) result := by
  have hcursor : (r.withCursor reply.chunk.newCursor).terms.cursor = reply.chunk.newCursor := by simp
  have hfloor : ∀ p ∈ ps, r.terms.cursor ≤ p.request.terms.cursor := by
    intro p hp
    have hp := h.floor p hp
    rw [hcursor] at hp
    exact Cursor.le_trans hforward hp
  constructor
  case head => simp
  case next => exact List.isChain_cons.mpr ⟨fun p hp => ⟨reply, rfl, h.head p hp⟩, h.next⟩
  case floor => exact List.forall_mem_cons.mpr ⟨Cursor.le_refl _, hfloor⟩
  case ascending => exact List.pairwise_cons.mpr ⟨hfloor, h.ascending⟩
  case kept =>
    rintro (_ | k) c hc
    · rw [List.getElem?_cons_zero, Option.some.injEq] at hc
      exact ⟨r, reply, rfl, hc.symm⟩
    · exact h.kept k c hc
  case top =>
    intro stats hstats
    obtain ⟨hlow, htop⟩ := h.top stats hstats
    rw [hcursor] at hlow
    have hlow := Cursor.le_trans hforward hlow
    exact ⟨hlow, List.forall_mem_cons.mpr ⟨hlow, htop⟩⟩

end

/-! ## Ends -/

/-- Where pulls end and what they add up to. -/
structure Closed (calls : Nat) (start : PullStats) (ps : List Pulled) (ks : List StoredChunk)
    (result : Except ReplicationError (Option PullStats)) : Prop where
  within : ps.length ≤ calls
  spent : result = .ok none → ps.length = calls
  /-- A reply that is kept and announces more is followed by the next pull, as long as there are calls left. -/
  goesOn : ∀ (k : Nat) (r : PullRequest) (reply : PullReply), ps[k]? = some ⟨r, .ok reply⟩ → k < ks.length →
    reply.chunk.more = true → k + 1 < ps.length ∨ result = .ok none
  stops : ∀ (k : Nat) (r : PullRequest) (reply : PullReply), ps[k]? = some ⟨r, .ok reply⟩ → k < ks.length →
    reply.chunk.more = false → k + 1 = ps.length ∧ ∃ stats, result = .ok (some stats)
  /-- Everything is kept, but for the pull that an error comes from. -/
  complete : ∀ stats?, result = .ok stats? → ks.length = ps.length
  failed : ∀ e, result = .error e → ps.length = ks.length + 1
  totals : ∀ stats, result = .ok (some stats) → ∃ c, ks.getLast? = some c ∧
    stats = ⟨start.level, start.chunks + ps.length, start.objects + claimed (Pulled.replies ps), c.newCursor⟩

section

variable {calls : Nat} {start : PullStats} {r : PullRequest} {reply : PullReply} {c : StoredChunk} {ps : List Pulled}
  {ks : List StoredChunk} {result : Except ReplicationError (Option PullStats)}

theorem closed_spent : Closed 0 start [] [] (.ok none) where
  within := Nat.le_refl 0
  spent _ := rfl
  goesOn := by simp
  stops := by simp
  complete _ _ := rfl
  failed := by simp
  totals := by simp

theorem closed_failed (answer : Except TransportError PullReply) (e : ReplicationError) :
    Closed (calls + 1) start [⟨r, answer⟩] [] (.error e) where
  within := Nat.le_add_left 1 calls
  spent := by simp
  goesOn := by simp
  stops := by simp
  complete := by simp
  failed _ _ := rfl
  totals := by simp

theorem closed_last (hc : c.newCursor = reply.chunk.newCursor) (hlast : reply.chunk.more = false) :
    Closed (calls + 1) start [⟨r, .ok reply⟩] [c] (.ok (some (start.add reply.chunk))) where
  within := Nat.le_add_left 1 calls
  spent := by simp
  goesOn := by simp [List.getElem?_singleton, hlast]
  stops := by
    intro k _ _ _ hk _
    obtain rfl := Nat.lt_one_iff.mp hk
    exact ⟨rfl, _, rfl⟩
  complete _ _ := rfl
  failed := by simp
  totals := by
    rintro _ ⟨⟩
    exact ⟨c, rfl, by rw [hc]; rfl⟩

theorem Closed.ne_nil (h : Closed calls start ps ks result) {stats : PullStats} (hstats : result = .ok (some stats)) :
    ps ≠ [] := by
  obtain ⟨c, hlast, -⟩ := h.totals stats hstats
  rintro rfl
  rw [List.eq_nil_of_length_eq_zero (h.complete _ hstats)] at hlast
  contradiction

theorem Closed.cons (hmore : reply.chunk.more = true) (h : Closed calls (start.add reply.chunk) ps ks result) :
    Closed (calls + 1) start (⟨r, .ok reply⟩ :: ps) (c :: ks) result where
  within := Nat.succ_le_succ h.within
  spent hspent := congrArg Nat.succ (h.spent hspent)
  goesOn := by
    rintro (_ | k) r' reply' hp hk hannounced
    · rcases result with e | _ | stats
      · rw [List.length_cons, h.failed e rfl]
        omega
      · exact .inr rfl
      · exact .inl (Nat.succ_lt_succ (List.length_pos_iff.mpr (h.ne_nil rfl)))
    · exact (h.goesOn k r' reply' hp (Nat.lt_of_succ_lt_succ hk) hannounced).imp_left Nat.succ_lt_succ
  stops := by
    rintro (_ | k) r' reply' hp hk hannounced
    · cases hp
      rw [hmore] at hannounced
      contradiction
    · obtain ⟨hend, hresult⟩ := h.stops k r' reply' hp (Nat.lt_of_succ_lt_succ hk) hannounced
      exact ⟨congrArg Nat.succ hend, hresult⟩
  complete stats? hstats := congrArg Nat.succ (h.complete stats? hstats)
  failed e he := congrArg Nat.succ (h.failed e he)
  totals stats hstats := by
    obtain ⟨last, hlast, htotals⟩ := h.totals stats hstats
    have hreplies : Pulled.replies (⟨r, .ok reply⟩ :: ps) = reply :: Pulled.replies ps := rfl
    refine ⟨last, by rw [List.getLast?_cons, hlast, Option.getD_some], ?_⟩
    rw [htotals, hreplies, claimed, List.length_cons, PullStats.add, Nat.add_assoc, Nat.add_assoc, Nat.add_comm 1]

/-- Totals fit into 64 bits, as long as the calls can be counted in 32. -/
theorem Closed.fits {level : UInt32} (h : Closed calls (.start level) ps ks result) (hcalls : calls < UInt32.size)
    {stats : PullStats} (hstats : result = .ok (some stats)) :
    stats.chunks < UInt64.size ∧ stats.objects < UInt64.size := by
  obtain ⟨c, -, rfl⟩ := h.totals stats hstats
  have hlength : (Pulled.replies ps).length ≤ ps.length := List.length_filterMap_le _ _
  have hwithin := h.within
  have hobjects : claimed (Pulled.replies ps) < UInt64.size := claimed_lt (by omega)
  have hsize : UInt32.size ≤ UInt64.size := by decide
  simp only [PullStats.start]
  omega

end

namespace Session

section

variable {s : Session} {options : PullOptions} {r : PullRequest} {es : List Exchange}

theorem Turn.error {e : ReplicationError} (h : Turn s options r es (.error e)) :
    ∃ answer, pulls es = [⟨r, answer⟩] ∧ kept es = [] := by
  cases h <;> exact ⟨_, rfl, rfl⟩

theorem Turn.ok {chunk : Chunk} (h : Turn s options r es (.ok chunk)) :
    ∃ reply : PullReply, chunk = reply.chunk ∧ r.terms.cursor ≤ chunk.newCursor ∧ pulls es = [⟨r, .ok reply⟩] ∧
      kept es = [Delivery.stored ⟨reply.level, reply.chunk, options.schema, r⟩] := by
  cases h with
  | stored hbreach => exact ⟨_, rfl, Chunk.forward_of_breach hbreach, rfl, rfl⟩

variable {calls : Nat} {stats : PullStats} {result : Except ReplicationError (Option PullStats)}

theorem Turns.linked (h : Turns s options calls r stats es result) :
    Linked options.schema r (pulls es) (kept es) result := by
  induction h with
  | spent => exact linked_nil (by simp)
  | fails hturn =>
    obtain ⟨answer, hpulls, hkept⟩ := hturn.error
    rw [hpulls, hkept]
    exact linked_single answer (by simp)
  | @last _ r stats es chunk hturn _ =>
    obtain ⟨reply, rfl, hforward, hpulls, hkept⟩ := hturn.ok
    rw [hpulls, hkept]
    refine (linked_nil ?_).cons hforward
    rintro _ ⟨⟩
    rw [PullRequest.terms_withCursor]
    exact Cursor.le_refl _
  | more hturn _ _ ih =>
    obtain ⟨reply, rfl, hforward, hpulls, hkept⟩ := hturn.ok
    rw [pulls_append, kept_append, hpulls, hkept]
    exact ih.cons hforward

theorem Turns.closed (h : Turns s options calls r stats es result) :
    Closed calls stats (pulls es) (kept es) result := by
  induction h with
  | spent => exact closed_spent
  | fails hturn =>
    obtain ⟨answer, hpulls, hkept⟩ := hturn.error
    rw [hpulls, hkept]
    exact closed_failed answer _
  | last hturn hmore =>
    obtain ⟨reply, rfl, -, hpulls, hkept⟩ := hturn.ok
    rw [hpulls, hkept]
    exact closed_last rfl hmore
  | more hturn hmore _ ih =>
    obtain ⟨reply, rfl, -, hpulls, hkept⟩ := hturn.ok
    rw [pulls_append, kept_append, hpulls, hkept]
    exact ih.cons hmore

end

/-- The requests of a pull, what the store keeps of it and what it comes to. -/
structure Chained (s : Session) (calls : Nat) (dn : String) (source destination : Guid) (options : PullOptions)
    (ps : List Pulled) (ks : List StoredChunk) (result : Except ReplicationError (Option PullStats)) : Prop where
  first : ∀ p ∈ ps.head?, (∃ set, p.request = firstRequest s dn source destination options set) ∧
    p.request.terms = ⟨destination, source, .ofDn dn, .zero, none, options.sentFlags, s.config.maxObjects,
      s.config.maxBytes, options.operation, 0⟩
  next : ps.IsChain Pulled.Follows
  ascending : ps.Pairwise Pulled.Below
  kept : ∀ (k : Nat) (c : StoredChunk), ks[k]? = some c → ∃ (r : PullRequest) (reply : PullReply),
    ps[k]? = some ⟨r, .ok reply⟩ ∧ c = Delivery.stored ⟨reply.level, reply.chunk, options.schema, r⟩ ∧
    c.requestCursor = r.terms.cursor ∧ ∀ p, ps[k + 1]? = some p → p.request.terms.cursor = c.newCursor
  top : ∀ stats, result = .ok (some stats) → ∀ p ∈ ps, p.request.terms.cursor ≤ stats.cursor
  spent : result = .ok none → ps.length = calls
  /-- Either the request cannot be made, or the pulls go on to their end. -/
  closed : ps = [] ∧ ks = [] ∧ (∃ cause, result = .error (.schema cause)) ∨
    ∃ set, Closed calls (.start (firstRequest s dn source destination options set).level) ps ks result
  fits : calls < UInt32.size → ∀ stats, result = .ok (some stats) →
    stats.chunks < UInt64.size ∧ stats.objects < UInt64.size

section

variable {s : Session} {calls : Nat} {dn : String} {source destination : Guid} {options : PullOptions}
  {set : Option AttributeSet} {es es' : List Exchange} {result : Except ReplicationError (Option PullStats)}

theorem chained_of_turns (hschema : ∀ x ∈ es, x.IsSchema)
    (h : Turns s options calls (firstRequest s dn source destination options set)
      (.start (firstRequest s dn source destination options set).level) es' result) :
    Chained s calls dn source destination options (pulls (es ++ es')) (kept (es ++ es')) result := by
  rw [pulls_append, kept_append, pulls_schema hschema, kept_schema hschema, List.nil_append, List.nil_append]
  have hlinked := h.linked
  have hclosed := h.closed
  constructor
  case first =>
    intro p hp
    rw [hlinked.head p hp, firstRequest_terms]
    exact ⟨⟨set, rfl⟩, rfl⟩
  case next => exact hlinked.next
  case ascending => exact hlinked.ascending
  case kept =>
    intro k c hc
    obtain ⟨r, reply, hpull, rfl⟩ := hlinked.kept k c hc
    refine ⟨r, reply, hpull, rfl, rfl, fun p hp => ?_⟩
    obtain ⟨reply', hreply, hp⟩ := Pulled.follows_of_chain hlinked.next hpull hp
    cases hreply
    rw [hp, PullRequest.terms_withCursor]
    rfl
  case top => exact fun stats hstats => (hlinked.top stats hstats).2
  case spent => exact hclosed.spent
  case closed => exact .inr ⟨set, hclosed⟩
  case fits => exact fun hcalls stats hstats => hclosed.fits hcalls hstats

theorem chained_of_schema {target : String} {e : ReplicationError}
    (h : Accounts target Exchange.IsSchema Unusable es (.error e : Except _ (Option AttributeSet))) :
    Chained s calls dn source destination options (pulls es) (kept es) (.error e) := by
  obtain ⟨cause, rfl⟩ : ∃ cause, e = .schema cause := by
    rcases h.ends.origin with ⟨x, hx, hfailure⟩ | ⟨dn, reason, hunusable⟩
    · exact (h.kinds x hx).failure hfailure
    · exact ⟨_, hunusable⟩
  rw [pulls_schema h.kinds, kept_schema h.kinds]
  exact ⟨by simp, .nil, .nil, by simp, by simp, by simp, .inl ⟨rfl, rfl, cause, rfl⟩, by simp⟩

end

theorem shows_replicate {W : Type} (peers : Peers W) (s : Session) (calls : Nat) (dn : String)
    (source destination : Guid) (options : PullOptions) :
    Shows (replicate peers s calls dn source destination options)
      (replicate peers.watched s calls dn source destination options)
      fun es result => Chained s calls dn source destination options (pulls es) (kept es) result := by
  refine shows_iff.mpr fun w => showsFrom_replicate peers s calls dn source destination options
    (shows_iff.mp (reports_wanted s.connection.target peers.schema options) w) ?_ ?_
  · exact fun set es w' es' result w'' hes hturns => chained_of_turns hes.kinds hturns
  · exact fun e es w' hes => chained_of_schema hes

end Session

/-! ## What the store keeps -/

section

variable {d : Delivery} {store after : ChunkStore}

theorem ChunkStore.apply_ok (h : apply d store = .ok () after) : after.chunks = store.chunks ++ [d.stored] := by
  unfold apply at h
  dsimp only at h
  split at h
  · cases h
    rfl
  · contradiction

theorem ChunkStore.apply_error {e : ApplyError} (h : apply d store = .error e after) : after = store := by
  unfold apply at h
  dsimp only at h
  split at h
  · contradiction
  · cases h
    rfl

end

section

variable {σ τ : Type} (server : ServerAccess σ) (schema : SchemaAccess τ)

/-- The store has kept what the exchanges tell, and nothing else since. -/
def Booked (before : List StoredChunk) (t : Watched (Surroundings σ τ)) : Prop :=
  t.world.store.chunks = before ++ kept t.seen

variable {before : List StoredChunk} {w w' : Surroundings σ τ} {seen : List Exchange} {x : Exchange}

theorem booked_aside (hx : x.kept? = none) (h : w'.store = w.store) :
    Booked before ⟨w', seen ++ [x]⟩ = Booked before ⟨w, seen⟩ := by
  simp [Booked, kept, hx, h]

theorem booked_kept {c : StoredChunk} (hx : x.kept? = some c) (h : w'.store.chunks = w.store.chunks ++ [c]) :
    Booked before ⟨w', seen ++ [x]⟩ = Booked before ⟨w, seen⟩ := by
  have hlast : kept [x] = [c] := by simp [kept, hx]
  rw [Booked, Booked, kept_append, h, hlast, ← List.append_assoc, List.append_left_inj]

theorem keeps_booked_aside {ε α : Type} {call : Call (Surroundings σ τ) ε α} {exchange : Except ε α → Exchange}
    (h : call.Keeps (·.store)) (hx : ∀ answer, (exchange answer).kept? = none) :
    (call.watched exchange).Keeps (Booked before) :=
  Call.keeps_watched (fun _ _ _ _ hcall => booked_aside (hx _) (h.of_ok hcall))
    fun _ _ _ _ hcall => booked_aside (hx _) (h.of_error hcall)

theorem keeps_booked (before : List StoredChunk) : (Peers.apart server schema).watched.Keeps (Booked before) where
  pull h r := keeps_booked_aside (fun w => by rw [Peers.apart, ServerAccess.on, Call.after_on]) fun _ => rfl
  schema := by
    have hschema : (Peers.apart server schema).schema.Keeps (·.store) := by
      refine SchemaAccess.keeps_on ?_ schema
      exact fun _ _ => rfl
    exact ⟨keeps_booked_aside hschema.base fun _ => rfl, fun _ => keeps_booked_aside (hschema.search _) fun _ => rfl,
      fun _ => keeps_booked_aside (hschema.resolve _) fun _ => rfl⟩
  store d := by
    refine Call.keeps_watched (fun w seen _ w' hcall => ?_) fun w seen _ w' hcall => ?_
    · simp only [Peers.apart] at hcall
      obtain ⟨store, hstore, rfl⟩ := Call.on_ok hcall
      exact booked_kept rfl (ChunkStore.apply_ok hstore)
    · simp only [Peers.apart] at hcall
      obtain ⟨store, hstore, rfl⟩ := Call.on_error hcall
      exact booked_aside rfl (ChunkStore.apply_error hstore)

/-- **Chains of requests.** -/
theorem Session.replicate_chained (s : Session) (calls : Nat) (dn : String) (source destination : Guid)
    (options : PullOptions) (scene : Scene (Surroundings σ τ)) :
    ∃ es result after,
      Yields (replicate (.apart server schema) s calls dn source destination options) scene result after ∧
      (∀ log seen, Yields (replicate (Peers.apart server schema).watched s calls dn source destination options)
        ⟨⟨scene.world, seen⟩, log⟩ result ⟨after, seen ++ es⟩) ∧
      after.store.chunks = scene.world.store.chunks ++ kept es ∧
      Chained s calls dn source destination options (pulls es) (kept es) result := by
  obtain ⟨es, result, after, hrun, hseen, hchained⟩ :=
    shows_replicate (.apart server schema) s calls dn source destination options scene.world
  refine ⟨es, result, after, hrun scene.log, hseen, ?_, hchained⟩
  have hkeeps := keeps_replicate (keeps_booked server schema scene.world.store.chunks) s options calls dn source
    destination
  have hbooked := (hkeeps.of_yields (hseen scene.log [])).mpr (List.append_nil _).symm
  rwa [Booked, List.nil_append] at hbooked

end

end DirectoryPull
