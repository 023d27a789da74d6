import DirectoryPull.Proofs.Client.Confined
import DirectoryPull.Proofs.Pull.Ends
import DirectoryPull.Proofs.Server.Ledger
import DirectoryPull.Proofs.Server.Outlines

/-!
# The two layouts

A pull in the full layout and the same pull in the reduced one go side by side. Servers answer both alike but for the
levels of their replies, and nothing in the client looks at what the reduced layout leaves out.
-/

namespace DirectoryPull

open DirectoryPull.Action Session Script

/-! ## From the full layout to the reduced one -/

theorem PullRequest.reduce_withCursor (r : PullRequest) (c : Cursor) :
    (r.withCursor c).reduce = r.reduce.withCursor c := by
  cases r <;> rfl

def StoredChunk.reduced (level : UInt32 → UInt32) (c : StoredChunk) : StoredChunk :=
  { c with level := level c.level, requestLevel := 5 }

def PullStats.reduced (stats : PullStats) : PullStats := { stats with level := 5 }

/-- What a pull asks the server, what the store keeps of it, and what it comes to. -/
structure Outcome where
  requests : List PullRequest
  kept : List StoredChunk
  result : Except ReplicationError (Option PullStats)

namespace Outcome

def reduced (level : UInt32 → UInt32) (o : Outcome) : Outcome :=
  ⟨o.requests.map .reduce, o.kept.map (·.reduced level), o.result.map (·.map .reduced)⟩

/-- All requests are in the full layout, and all replies are of some levels. -/
structure Full (levels : UInt32 → Prop) (o : Outcome) : Prop where
  requests : ∀ r ∈ o.requests, r.level = 8
  kept : ∀ c ∈ o.kept, c.requestLevel = 8 ∧ levels c.level
  stats : ∀ stats, o.result = .ok (some stats) → stats.level = 8

/-- The same with one more call before. -/
def before (r : PullRequest) (c : StoredChunk) (o : Outcome) : Outcome := ⟨r :: o.requests, c :: o.kept, o.result⟩

theorem full_nothing {levels : UInt32 → Prop} {result : Except ReplicationError (Option PullStats)}
    (h : ∀ stats, result = .ok (some stats) → stats.level = 8) : Full levels ⟨[], [], result⟩ where
  requests := by simp
  kept := by simp
  stats := h

theorem Full.before {levels : UInt32 → Prop} {o : Outcome} {r : PullRequest} {c : StoredChunk} (h : o.Full levels)
    (hr : r.level = 8) (hc : c.requestLevel = 8 ∧ levels c.level) : (o.before r c).Full levels where
  requests := List.forall_mem_cons.mpr ⟨hr, h.requests⟩
  kept := List.forall_mem_cons.mpr ⟨hc, h.kept⟩
  stats := h.stats

end Outcome

section

variable {σ τ : Type} (pulls : σ → List PullRequest)

/-- The action comes to an outcome, whatever has been noted before. -/
def Action.ComesTo (act : Action (Surroundings σ τ) ReplicationError (Option PullStats)) (w : Surroundings σ τ)
    (o : Outcome) : Prop :=
  ∃ after, (∀ log, Yields act ⟨w, log⟩ o.result after) ∧ pulls after.server = pulls w.server ++ o.requests ∧
    after.store.chunks = w.store.chunks ++ o.kept

/-! ## One call more -/

section

variable {pulls} {access : ServerAccess σ} {schema : SchemaAccess τ} {s : Session} {options : PullOptions}
  {r : PullRequest} {w : Surroundings σ τ} {after : σ} {calls : Nat} {stats : PullStats}
  (hpulls : pulls after = pulls w.server ++ [r])
include hpulls

theorem comesTo_error {e : ReplicationError} (hchunk : ∀ log, Yields (pullChunk (.apart access schema) s options r)
      ⟨w, log⟩ (.error e) (judged w options.schema r after (.error e))) :
    ComesTo pulls (pullAll (.apart access schema) s options (calls + 1) r stats) w ⟨[r], [], .error e⟩ := by
  refine ⟨_, fun log => pullAll_error (hchunk log), hpulls, ?_⟩
  simp [judged, Except.toOption]

variable {reply : PullReply} (hchunk : ∀ log, Yields (pullChunk (.apart access schema) s options r) ⟨w, log⟩
  (.ok reply.chunk) (judged w options.schema r after (.ok reply)))
include hchunk

theorem comesTo_last (hmore : reply.chunk.more = false) :
    ComesTo pulls (pullAll (.apart access schema) s options (calls + 1) r stats) w
      ⟨[r], [Delivery.stored ⟨reply.level, reply.chunk, options.schema, r⟩], .ok (some (stats.add reply.chunk))⟩ :=
  ⟨_, fun log => pullAll_last (hchunk log) hmore, hpulls, rfl⟩

theorem comesTo_more (hmore : reply.chunk.more = true) {o : Outcome}
    (h : ComesTo pulls (pullAll (.apart access schema) s options calls (r.withCursor reply.chunk.newCursor)
      (stats.add reply.chunk)) (judged w options.schema r after (.ok reply)) o) :
    ComesTo pulls (pullAll (.apart access schema) s options (calls + 1) r stats) w
      (o.before r (Delivery.stored ⟨reply.level, reply.chunk, options.schema, r⟩)) := by
  obtain ⟨world, hrun, hpulls', hstore⟩ := h
  refine ⟨world, fun log => pullAll_more (hchunk log) hmore hrun, ?_, ?_⟩
  · rw [hpulls', judged, hpulls, List.append_assoc]
    rfl
  · rw [hstore, judged, List.append_assoc]
    rfl

end

end

/-! ## Two pulls side by side -/

section

variable {σ τ : Type}

/-- Alike states answer a full request and its reduced form alike, and they stay alike. -/
def Tandem (access : ServerAccess σ) (handle : Handle) (pulls : σ → List PullRequest) (levels : UInt32 → Prop)
    (level : UInt32 → UInt32) (alike : σ → σ → Prop) : Prop :=
  ∀ r a b, r.level = 8 → alike a b → ∃ answer answer' a' b',
    (access.pull handle r).Answers a answer a' ∧ (access.pull handle r.reduce).Answers b answer' b' ∧
    Mirrors level answer answer' ∧
    pulls a' = pulls a ++ [r] ∧ pulls b' = pulls b ++ [r.reduce] ∧ alike a' b' ∧
    ∀ reply, answer = .ok reply → levels reply.level

theorem Mirrors.judge {level : UInt32 → UInt32} {answer answer' : Item} (h : Mirrors level answer answer')
    (target : String) (cursor : Cursor) :
    Mirrors level (Script.judge target cursor (some answer)) (Script.judge target cursor (some answer')) := by
  cases h with
  | error e => exact .error _
  | @ok reply reply' hlevel hchunk =>
    have hempty : reply.chunk.chain = [] ↔ reply'.chunk.chain = [] := by
      rw [← List.length_eq_zero_iff, hchunk.length, List.length_eq_zero_iff]
    simp only [Script.judge, hempty, hchunk.count, hchunk.newCursor, hchunk.length]
    split
    · exact .error _
    · split
      · exact .error _
      · split
        · exact .error _
        · exact .ok hlevel hchunk

section

variable {level : UInt32 → UInt32} {reply reply' : PullReply} (hlevel : reply'.level = level reply.level)
  (hchunk : reply.chunk.Resembles reply'.chunk) (schema : Bool) (r : PullRequest)
include hlevel hchunk

theorem stored_reduced : Delivery.stored ⟨reply'.level, reply'.chunk, schema, r.reduce⟩ =
    (Delivery.stored ⟨reply.level, reply.chunk, schema, r⟩).reduced level := by
  simp only [Delivery.stored, StoredChunk.reduced, hlevel, hchunk.newCursor, hchunk.dns]
  rfl

theorem before_reduced (o : Outcome) :
    (o.before r (Delivery.stored ⟨reply.level, reply.chunk, schema, r⟩)).reduced level =
      (o.reduced level).before r.reduce (Delivery.stored ⟨reply'.level, reply'.chunk, schema, r.reduce⟩) := by
  rw [stored_reduced hlevel hchunk]
  rfl

end

theorem add_reduced {c c' : Chunk} (h : c.Resembles c') (stats : PullStats) :
    stats.reduced.add c' = (stats.add c).reduced := by
  simp only [PullStats.add, PullStats.reduced, h.count, h.newCursor]

variable {access : ServerAccess σ} {pulls : σ → List PullRequest} {levels : UInt32 → Prop} {level : UInt32 → UInt32}
  {alike : σ → σ → Prop} (schema : SchemaAccess τ) (s : Session) (options : PullOptions)

theorem Session.pullAll_tandem (h : Tandem access s.connection.handle pulls levels level alike) (calls : Nat)
    (r : PullRequest) (stats : PullStats) (a b : σ) (store store' : ChunkStore) (x : τ) (hr : r.level = 8)
    (hstats : stats.level = 8) (halike : alike a b) :
    ∃ o : Outcome, o.Full levels ∧
      ComesTo pulls (pullAll (.apart access schema) s options calls r stats) ⟨a, store, x⟩ o ∧
      ComesTo pulls (pullAll (.apart access schema) s options calls r.reduce stats.reduced) ⟨b, store', x⟩
        (o.reduced level) := by
  induction calls generalizing r stats a b store store' with
  | zero =>
    refine ⟨⟨[], [], .ok none⟩, Outcome.full_nothing (by simp), ?_, ?_⟩ <;>
      exact ⟨_, fun log => yields_pure _ _, (List.append_nil _).symm, (List.append_nil _).symm⟩
  | succ calls ih =>
    obtain ⟨answer, answer', a', b', hfull, hreduced, hmirrors, hpulls, hpulls', halike, hlevels⟩ := h r a b hr halike
    have hverdicts : Mirrors level (judge s.connection.target r.terms.cursor (some answer))
        (judge s.connection.target r.reduce.terms.cursor (some answer')) := hmirrors.judge _ _
    generalize hv : judge s.connection.target r.terms.cursor (some answer) = verdict at hverdicts
    generalize hv' : judge s.connection.target r.reduce.terms.cursor (some answer') = verdict' at hverdicts
    cases hverdicts with
    | error e =>
      refine ⟨⟨[r], [], .error e⟩, ⟨by simpa using hr, by simp, by simp⟩, ?_, ?_⟩
      · exact comesTo_error hpulls (pullChunk_judged hfull hv)
      · exact comesTo_error hpulls' (pullChunk_judged hreduced hv')
    | @ok reply reply' hlevel hchunk =>
      obtain ⟨hreply, -⟩ := judge_ok.mp hv
      have hkept := hlevels reply (Option.some.inj hreply)
      have hadd := add_reduced hchunk stats
      cases hmore : reply.chunk.more with
      | false =>
        have hmore' : reply'.chunk.more = false := by rw [← hchunk.more, hmore]
        have hend : Outcome.Full levels ⟨[], [], .ok (some (stats.add reply.chunk))⟩ := by
          refine Outcome.full_nothing ?_
          rintro _ ⟨⟩
          exact hstats
        have hresult : Outcome.reduced level ⟨[], [], .ok (some (stats.add reply.chunk))⟩ =
            ⟨[], [], .ok (some (stats.reduced.add reply'.chunk))⟩ := by
          rw [hadd]
          rfl
        refine ⟨_, hend.before hr ⟨hr, hkept⟩, comesTo_last hpulls (pullChunk_judged hfull hv) hmore, ?_⟩
        rw [before_reduced hlevel hchunk, hresult]
        exact comesTo_last hpulls' (pullChunk_judged hreduced hv') hmore'
      | true =>
        have hnext : (r.withCursor reply.chunk.newCursor).level = 8 := by rwa [PullRequest.level_withCursor]
        have hmore' : reply'.chunk.more = true := by rw [← hchunk.more, hmore]
        obtain ⟨o, ho, hrest, hrest'⟩ := ih (r.withCursor reply.chunk.newCursor) (stats.add reply.chunk) a' b' _ _ hnext
          hstats halike
        refine ⟨_, ho.before hr ⟨hr, hkept⟩, comesTo_more hpulls (pullChunk_judged hfull hv) hmore hrest, ?_⟩
        rw [PullRequest.reduce_withCursor, hchunk.newCursor, ← hadd] at hrest'
        rw [before_reduced hlevel hchunk]
        exact comesTo_more hpulls' (pullChunk_judged hreduced hv') hmore' hrest'

/-! ## A whole pull -/

/-- The session, had the two sides agreed to other capabilities. -/
def Session.agreeing (s : Session) (e : Extensions) : Session :=
  { s with connection := { s.connection with extensions := e } }

/-- What was agreed to shapes the first request, and that is all. -/
theorem Session.pullAll_agreeing (peers : Peers (Surroundings σ τ)) (e : Extensions) (calls : Nat) (r : PullRequest)
    (stats : PullStats) :
    pullAll peers (s.agreeing e) options calls r stats = pullAll peers s options calls r stats := by
  induction calls generalizing r stats with
  | zero => rfl
  | succ calls ih =>
    unfold pullAll
    simp only [ih]
    rfl

/-- A pull in the full layout and one in the reduced layout have corresponding outcomes; if there are calls enough,
they come to an end. -/
def SideBySide (pulls : σ → List PullRequest) (levels : UInt32 → Prop) (level : UInt32 → UInt32)
    (full reduced : Action (Surroundings σ τ) ReplicationError (Option PullStats)) (w w' : Surroundings σ τ)
    (enough : Prop) : Prop :=
  ∃ o : Outcome, o.Full levels ∧ ComesTo pulls full w o ∧ ComesTo pulls reduced w' (o.reduced level) ∧
    (enough → o.result ≠ .ok none)

theorem SideBySide.mono {full reduced : Action (Surroundings σ τ) ReplicationError (Option PullStats)}
    {w w' : Surroundings σ τ} {enough enough' : Prop} (h : SideBySide pulls levels level full reduced w w' enough)
    (himp : enough' → enough) : SideBySide pulls levels level full reduced w w' enough' := by
  obtain ⟨o, ho, hfull, hreduced, hends⟩ := h
  exact ⟨o, ho, hfull, hreduced, hends ∘ himp⟩

variable {schema s options} {calls : Nat} {dn : String} {source destination : Guid}

theorem Session.replicate_comesTo {set : Option AttributeSet} {a : σ} {store : ChunkStore} {x x' : τ} {o : Outcome}
    (hset : ∀ server store log, Yields (wanted (Peers.apart access schema).schema options)
      ⟨⟨server, store, x⟩, log⟩ (.ok set) ⟨server, store, x'⟩)
    (h : ComesTo pulls (pullAll (.apart access schema) s options calls
      (firstRequest s dn source destination options set)
      (.start (firstRequest s dn source destination options set).level)) ⟨a, store, x'⟩ o) :
    ComesTo pulls (replicate (.apart access schema) s calls dn source destination options) ⟨a, store, x⟩ o := by
  obtain ⟨after, hrun, hpulls, hstore⟩ := h
  refine ⟨after, fun log => ?_, hpulls, hstore⟩
  obtain ⟨log', hbuilt⟩ := hset a store log
  exact replicate_yields hbuilt hrun

theorem Session.replicate_schemaless {e : ReplicationError} {a : σ} {store : ChunkStore} {x x' : τ}
    (hset : ∀ server store log, Yields (wanted (Peers.apart access schema).schema options)
      ⟨⟨server, store, x⟩, log⟩ (.error e) ⟨server, store, x'⟩) :
    ComesTo pulls (replicate (.apart access schema) s calls dn source destination options) ⟨a, store, x⟩
      ⟨[], [], .error e⟩ := by
  refine ⟨⟨a, store, x'⟩, fun log => ?_, (List.append_nil _).symm, (List.append_nil _).symm⟩
  unfold replicate
  exact yields_bind_error (hset a store log)

theorem Session.replicate_tandem (h : Tandem access s.connection.handle pulls levels level alike) {sound : σ → Prop}
    {left : σ → PullRequest → Nat} (hprogress : Progress access s.connection.handle sound left) {more less : Extensions}
    (hmore : Extensions.supportsRequestV8 more = true) (hless : Extensions.supportsRequestV8 less = false) {a b : σ}
    (halike : alike a b) (store : ChunkStore) (x : τ) :
    SideBySide pulls levels level
      (replicate (.apart access schema) (s.agreeing more) calls dn source destination options)
      (replicate (.apart access schema) (s.agreeing less) calls dn source destination options)
      ⟨a, store, x⟩ ⟨b, store, x⟩ (sound a ∧ ∀ r, left a r < calls) := by
  obtain ⟨result, x', hset⟩ := confined_wanted access schema options x
  cases result with
  | error e =>
    exact ⟨⟨[], [], .error e⟩, Outcome.full_nothing (by simp), replicate_schemaless hset, replicate_schemaless hset,
      by simp⟩
  | ok set =>
    have hfull : firstRequest (s.agreeing more) dn source destination options set =
        .full (s.terms dn source destination options) ⟨set, none, []⟩ := if_pos hmore
    have hreduced : firstRequest (s.agreeing less) dn source destination options set =
        .reduced (s.terms dn source destination options) := if_neg (by simp [agreeing, hless])
    obtain ⟨o, ho, hrun, hrun'⟩ := pullAll_tandem schema s options h calls
      (.full (s.terms dn source destination options) ⟨set, none, []⟩) (.start 8) a b store store x' rfl rfl halike
    refine ⟨o, ho, replicate_comesTo hset ?_, replicate_comesTo hset ?_, ?_⟩
    · rw [pullAll_agreeing, hfull]
      exact hrun
    · rw [pullAll_agreeing, hreduced]
      exact hrun'
    · rintro ⟨hsound, hcalls⟩
      obtain ⟨after, hrun, -⟩ := hrun
      exact pullAll_ends (hrun []) hprogress hsound (hcalls _)

end

/-! ## Scripts -/

theorem tandem_scripted (handle : Handle) :
    Tandem Server.access handle ScriptedServer.pulls (fun _ => True) id fun a b => a.script = b.script := by
  intro r a b _ hscript
  refine ⟨nextItem a.script, nextItem b.script, _, _, pull_script handle r a, pull_script handle r.reduce b, ?_,
    pulls_played _ _ _, pulls_played b b.script.tail _, congrArg List.tail hscript, fun _ _ => trivial⟩
  rw [hscript]
  exact mirrors_self _

/-! ## Directory servers -/

namespace DirectoryServer

theorem replyLevel_full {r : PullRequest} (h : r.level = 8) : replyLevel r = 6 := by
  cases r with
  | full => rfl
  | reduced terms => exact absurd (show (5 : UInt32) = 8 from h) (by decide)

theorem tandem_directory (h : Handle) :
    Tandem Server.access h DirectoryServer.pulls (· = 6) (fun _ => 1) Alike := by
  intro r a b hr halike
  by_cases hh : h = handle
  · rw [hh]
    refine ⟨_, _, _, _, pull_answers a r, pull_answers b r.reduce, replyTo_reduce halike r, rfl, rfl,
      halike.counted r r.reduce, ?_⟩
    intro reply hreply
    obtain ⟨objects, -, rfl⟩ := replyTo_ok hreply
    exact replyLevel_full hr
  · refine ⟨.error _, .error _, _, _, pull_stranger a r hh, pull_stranger b r.reduce hh, .error _, rfl, rfl, ?_,
      by simp⟩
    exact ⟨halike.outline, halike.faults, by simp [halike.calls]⟩

theorem distance_lt_pullBound (server : DirectoryServer) (r : PullRequest) :
    distance server r < Server.pullBound server := by
  have hbound : Server.pullBound server = server.nextUsn.toNat + server.faults.entries.length + 1 := rfl
  unfold distance
  omega

end DirectoryServer

/-! ## Both layouts -/

/-- **The two layouts.** The two directory servers have been through the same, but for the identifiers that they drew. -/
theorem Session.replicate_layouts {τ : Type} (schema : SchemaAccess τ) (s : Session) (more less : Extensions)
    (options : PullOptions) (dn : String) (source destination : Guid) (calls : Nat) (store : ChunkStore) (x : τ)
    (hmore : Extensions.supportsRequestV8 more = true) (hless : Extensions.supportsRequestV8 less = false) :
    (∀ a b : ScriptedServer, a.script = b.script →
      SideBySide ScriptedServer.pulls (fun _ => True) id
        (replicate (.apart Server.access schema) (s.agreeing more) calls dn source destination options)
        (replicate (.apart Server.access schema) (s.agreeing less) calls dn source destination options)
        ⟨a, store, x⟩ ⟨b, store, x⟩ (Server.pullBound a ≤ calls)) ∧
    ∀ (deeds deeds' : List DirectoryServer.Deed) (e e' : Extensions),
      deeds.map (·.unidentified) = deeds'.map (·.unidentified) →
      SideBySide DirectoryServer.pulls (· = 6) (fun _ => 1)
        (replicate (.apart Server.access schema) (s.agreeing more) calls dn source destination options)
        (replicate (.apart Server.access schema) (s.agreeing less) calls dn source destination options)
        ⟨.built e deeds, store, x⟩ ⟨.built e' deeds', store, x⟩
        (DirectoryServer.Reachable (.built e deeds) ∧ Server.pullBound (DirectoryServer.built e deeds) ≤ calls) := by
  constructor
  · intro a b hscript
    refine SideBySide.mono (replicate_tandem (tandem_scripted s.connection.handle)
      (progress_scripted s.connection.handle) hmore hless hscript store x) fun hcalls => ?_
    exact ⟨trivial, fun _ => hcalls⟩
  · intro deeds deeds' e e' hdeeds
    refine SideBySide.mono (replicate_tandem (DirectoryServer.tandem_directory s.connection.handle)
      (DirectoryServer.progress_directory s.connection.handle) hmore hless (DirectoryServer.alike_built e e' hdeeds)
      store x) fun ⟨hreach, hcalls⟩ => ?_
    exact ⟨hreach.numbered, fun r => Nat.lt_of_lt_of_le (DirectoryServer.distance_lt_pullBound _ r) hcalls⟩

namespace DirectoryServer

/-- Two contexts that are filled by turns. -/
def turnsDeeds (a b c d : Guid) : List Deed :=
  [.addObjects "DC=a" [⟨a, "CN=1,DC=a"⟩], .addObjects "DC=b" [⟨b, "CN=1,DC=b"⟩, ⟨c, "CN=2,DC=b"⟩],
    .addObjects "DC=a" [⟨d, "CN=2,DC=a"⟩]]

/-- One server draws these identifiers, and the other one others. -/
def ownDeeds : List Deed := turnsDeeds (.fill 1) (.fill 2) (.fill 3) (.fill 4)

def otherDeeds : List Deed := turnsDeeds (.fill 5) (.fill 6) (.fill 7) (.fill 8)

end DirectoryServer

theorem Session.replicate_layouts_turns :
    Extensions.supportsRequestV8 .offered = true ∧
      Extensions.supportsRequestV8 (Extensions.offered.diff Extensions.requestV8) = false ∧
      SideBySide DirectoryServer.pulls (· = 6) (fun _ => 1)
        (replicate (.apart Server.access .unasked) ((Session.ofLimit DirectoryServer.handle 1).agreeing .offered) 7
          "DC=a" .nil .nil .default)
        (replicate (.apart Server.access .unasked) ((Session.ofLimit DirectoryServer.handle 1).agreeing
          (Extensions.offered.diff Extensions.requestV8)) 7 "DC=a" .nil .nil .default)
        ⟨.built .offered DirectoryServer.ownDeeds, .empty, ()⟩
        ⟨.built (Extensions.offered.diff Extensions.requestV8) DirectoryServer.otherDeeds, .empty, ()⟩ True :=
  ⟨by decide, by decide,
    ((replicate_layouts .unasked (.ofLimit DirectoryServer.handle 1) .offered
      (Extensions.offered.diff Extensions.requestV8) .default "DC=a" .nil .nil 7 .empty () (by decide) (by decide)).2
      DirectoryServer.ownDeeds DirectoryServer.otherDeeds .offered (Extensions.offered.diff Extensions.requestV8)
      rfl).mono fun _ => ⟨DirectoryServer.reachable_built .offered DirectoryServer.ownDeeds (by decide), by decide⟩⟩

end DirectoryPull
