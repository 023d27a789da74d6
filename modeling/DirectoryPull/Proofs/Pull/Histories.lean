import DirectoryPull.Proofs.Client.Lives
import DirectoryPull.Proofs.Pull.Layouts

/-!
# Pull after pull

The pulls of a session take their parts of a script one after the other. Whatever came before, each does what it would
do alone, on a session that is bound anew, with the rest of the script and an empty store.
-/

namespace DirectoryPull

open DirectoryPull.Action Session Script

/-! ## Pulls in a row -/

structure PullOrder where
  dn : String
  source : Guid
  destination : Guid
  options : PullOptions

section

variable {W : Type}

def Session.pull (peers : Peers W) (s : Session) (calls : Nat) (o : PullOrder) :
    Action W ReplicationError (Option PullStats) :=
  s.replicate peers calls o.dn o.source o.destination o.options

/-- Pulls one after the other, whether they succeed or not. -/
def Session.pullEach (peers : Peers W) (s : Session) (calls : Nat) :
    List PullOrder → Action W ReplicationError (List (Except ReplicationError (Option PullStats)))
  | [] => return []
  | o :: os => do
    let result ← (s.pull peers calls o).attempt
    return result :: (← s.pullEach peers calls os)

/-- Binds a new session and pulls once. -/
def pullAnew (peers : Peers W) (target : String) (identity : Guid) (config : Config) (calls : Nat) (o : PullOrder) :
    Action W ReplicationError (Option PullStats) := do
  let s ← Session.start peers.server target identity
  (s.withConfig config).pull peers calls o

end

/-! ## One pull -/

namespace Script

theorem kept_cons (level : UInt32) (schema : Bool) (cursor : Cursor) (reply : PullReply) (replies : List PullReply) :
    kept level schema cursor (reply :: replies) =
      ⟨reply.level, level, schema, cursor, reply.chunk.newCursor, reply.chunk.dns⟩ ::
        kept level schema reply.chunk.newCursor replies := by
  simp [kept, sent]

theorem length_dns_kept (level : UInt32) (schema : Bool) (cursor : Cursor) {replies : List PullReply}
    (h : ∀ reply ∈ replies, reply.chunk.chain.length = reply.chunk.count.toNat) :
    ((kept level schema cursor replies).flatMap (·.dns)).length = claimed replies := by
  induction replies generalizing cursor with
  | nil => simp [kept, claimed]
  | cons reply replies ih =>
    rw [List.forall_mem_cons] at h
    rw [kept_cons, List.flatMap_cons, List.length_append, ih _ h.2, Chunk.dns_length, h.1, claimed]

theorem Leads.counted {cursor : Cursor} {taken : List PullReply} (h : Leads cursor taken) :
    ∀ reply ∈ taken, reply.chunk.chain.length = reply.chunk.count.toNat := by
  induction taken generalizing cursor with
  | nil => simp
  | cons reply taken ih =>
    obtain ⟨hgood, -, hrest⟩ := h
    exact List.forall_mem_cons.mpr ⟨hgood.counted, ih hrest⟩

end Script

namespace Outcome

/-- The pull has ended, and where it succeeded the store has the objects that it counted. -/
def Complete (o : Outcome) : Prop :=
  o.result ≠ .ok none ∧ ∀ stats, o.result = .ok (some stats) → (o.kept.flatMap (·.dns)).length = stats.objects

/-- A pull that goes through some replies and then meets an item. -/
def ofReplies (r : PullRequest) (schema : Bool) (taken : List PullReply) (verdict : Except ReplicationError PullReply) :
    Outcome where
  requests := (sent .zero taken).map r.withCursor
  kept := Script.kept r.level schema .zero (taken ++ verdict.toOption.toList)
  result := verdict.map fun last =>
    some ((taken ++ [last]).foldl (fun st reply => st.add reply.chunk) (.start r.level))

theorem complete_ofReplies {target : String} {item : Option Item} {taken : List PullReply}
    {verdict : Except ReplicationError PullReply} (r : PullRequest) (schema : Bool) (hlead : Leads .zero taken)
    (hv : judge target (standing .zero taken) item = verdict) : (ofReplies r schema taken verdict).Complete := by
  unfold Complete ofReplies
  cases verdict with
  | error e => simp [Except.map]
  | ok last =>
    obtain ⟨-, hgood⟩ := judge_ok.mp hv
    simp only [Except.map, foldl_add, PullStats.start, Nat.zero_add]
    refine ⟨by simp, ?_⟩
    rintro stats hstats
    obtain rfl := Option.some.inj (Except.ok.inj hstats)
    refine length_dns_kept r.level schema .zero ?_
    exact List.forall_mem_append.mpr ⟨hlead.counted, List.forall_mem_singleton.mpr hgood.counted⟩

end Outcome

section

variable {τ : Type}

/-- From a script and a state of the schema, a pull leaves this much of the script and comes to this outcome, whatever
has been called or stored before. -/
def Decided (schema : SchemaAccess τ) (s : Session) (calls : Nat) (o : PullOrder) (script left : List Item) (x x' : τ)
    (outcome : Outcome) : Prop :=
  ∀ (server : ScriptedServer) (store : ChunkStore) (log : List Event), server.script = script →
    Yields (s.pull (.apart Server.access schema) calls o) ⟨⟨server, store, x⟩, log⟩ outcome.result
      ⟨played server left outcome.requests, ⟨store.chunks ++ outcome.kept⟩, x'⟩

theorem exists_decided (schema : SchemaAccess τ) (s : Session) {calls : Nat} (o : PullOrder) {script : List Item}
    (hcalls : script.length < calls) (x : τ) :
    ∃ part left x' outcome, script = part ++ left ∧ Outcome.Complete outcome ∧
      Decided schema s calls o script left x x' outcome := by
  obtain ⟨prepared, x', hwanted⟩ := confined_wanted (Server.access : ServerAccess ScriptedServer) schema o.options x
  cases prepared with
  | error e =>
    refine ⟨[], script, x', ⟨[], [], .error e⟩, rfl, ⟨by simp, by simp⟩, ?_⟩
    intro server store log hscript
    unfold Session.pull replicate
    have hplayed : played server script [] = server := by simp [played, ← hscript]
    rw [hplayed, List.append_nil]
    exact yields_bind_error (hwanted server store log)
  | ok set =>
    obtain ⟨taken, rest, hsplit, hlead, hstop⟩ := exists_leads script .zero
    have hzero : (firstRequest s o.dn o.source o.destination o.options set).terms.cursor = .zero := by
      rw [firstRequest_terms]
      rfl
    have hlength : taken.length < calls := by
      have := congrArg List.length hsplit
      simp only [List.length_append, List.length_map] at this
      omega
    refine ⟨taken.map .ok ++ rest.take 1, rest.tail, x',
      .ofReplies (firstRequest s o.dn o.source o.destination o.options set) o.options.schema taken
        (judge s.connection.target (standing .zero taken) rest.head?),
      ?_, Outcome.complete_ofReplies _ _ hlead rfl, ?_⟩
    · rw [hsplit, List.append_assoc, ← List.drop_one, List.take_append_drop]
    · intro server store log hscript
      obtain ⟨log', hset⟩ := hwanted server store log
      refine replicate_yields hset fun log => ?_
      have hrun := @pullAll_script τ schema s o.options taken rest _ ⟨server, store, x'⟩ log
        (firstRequest s o.dn o.source o.destination o.options set)
        (.start (firstRequest s o.dn o.source o.destination o.options set).level) calls (hscript.trans hsplit)
        (by rwa [hzero]) (by rwa [hzero]) rfl hlength
      rw [hzero] at hrun
      unfold settled at hrun
      rw [hzero] at hrun
      exact hrun

end

/-! ## All pulls -/

section

variable {τ : Type}

/-- The action takes a part of the script and comes to an outcome. -/
structure Takes (act : Action (Surroundings ScriptedServer τ) ReplicationError (Option PullStats))
    (w after : Surroundings ScriptedServer τ) (part : List Item) (o : Outcome) : Prop where
  run : ∀ log, Yields act ⟨w, log⟩ o.result after
  script : w.server.script = part ++ after.server.script
  requests : after.server.pulls = w.server.pulls ++ o.requests
  kept : after.store.chunks = w.store.chunks ++ o.kept

/-- A pull of many, with its part of the script. -/
structure Episode where
  order : PullOrder
  part : List Item
  outcome : Outcome

/-- An empty store, and a server that has not been called and has a script. -/
def newSurroundings (mask : Extensions) (script : List Item) (x : τ) : Surroundings ScriptedServer τ :=
  ⟨{ ScriptedServer.ofExtensions mask with script := script }, .empty, x⟩

/-- Pulls of a session, each of which goes as it would on a session bound anew, with what is left of the script. -/
inductive History (schema : SchemaAccess τ) (mask : Extensions) (s : Session) (calls : Nat) :
    Surroundings ScriptedServer τ → List Episode → Surroundings ScriptedServer τ → Prop
  | done {w : Surroundings ScriptedServer τ} : History schema mask s calls w [] w
  | next {w between after alone : Surroundings ScriptedServer τ} {e : Episode} {es : List Episode}
      (htakes : Takes (s.pull (.apart Server.access schema) calls e.order) w between e.part e.outcome)
      (halone : Takes (pullAnew (.apart Server.access schema) s.connection.target s.identity s.config calls e.order)
        (newSurroundings mask w.server.script w.schema) alone e.part e.outcome)
      (hcomplete : e.outcome.Complete) (hrest : History schema mask s calls between es after) :
    History schema mask s calls w (e :: es) after

/-- What pulls in a row come to: they take consecutive parts of the script, and what they ask for and what they store
follow on each other in the same way. -/
structure Independent (schema : SchemaAccess τ) (mask : Extensions) (s : Session) (calls : Nat)
    (w : Surroundings ScriptedServer τ) (orders : List PullOrder) (es : List Episode)
    (after : Surroundings ScriptedServer τ) : Prop where
  complete : es.map Episode.order = orders
  run : ∀ log, Yields (s.pullEach (.apart Server.access schema) calls orders) ⟨w, log⟩
    (.ok (es.map (·.outcome.result))) after
  history : History schema mask s calls w es after
  script : w.server.script = es.flatMap (·.part) ++ after.server.script
  requests : after.server.pulls = w.server.pulls ++ es.flatMap (·.outcome.requests)
  kept : after.store.chunks = w.store.chunks ++ es.flatMap (·.outcome.kept)

variable {schema : SchemaAccess τ} {mask : Extensions} {s : Session} {calls : Nat}
  {w after : Surroundings ScriptedServer τ} {es : List Episode}

theorem History.script (h : History schema mask s calls w es after) :
    w.server.script = es.flatMap (·.part) ++ after.server.script := by
  induction h with
  | done => rfl
  | next htakes _ _ _ ih => rw [htakes.script, ih, List.flatMap_cons, List.append_assoc]

theorem History.requests (h : History schema mask s calls w es after) :
    after.server.pulls = w.server.pulls ++ es.flatMap (·.outcome.requests) := by
  induction h with
  | done => exact (List.append_nil _).symm
  | next htakes _ _ _ ih => rw [ih, htakes.requests, List.flatMap_cons, List.append_assoc]

theorem History.kept (h : History schema mask s calls w es after) :
    after.store.chunks = w.store.chunks ++ es.flatMap (·.outcome.kept) := by
  induction h with
  | done => exact (List.append_nil _).symm
  | next htakes _ _ _ ih => rw [ih, htakes.kept, List.flatMap_cons, List.append_assoc]

variable (hhandle : s.connection.handle = ScriptedServer.handle)
  (hmask : s.connection.extensions = mask.inter Extensions.offered) (hidentity : s.identity ≠ .nil)
include hhandle hmask hidentity

theorem start_anew (schema : SchemaAccess τ) (script : List Item) (x : τ) (log : List Event) :
    ∃ fresh, Yields (Session.start (Peers.apart Server.access schema).server s.connection.target s.identity)
      ⟨newSurroundings mask script x, log⟩ (.ok fresh)
      { newSurroundings mask script x with
        server := (newSurroundings mask script x).server.record (.bind Extensions.offered) } ∧
      fresh.withConfig s.config = s := by
  obtain ⟨es, result, w', hrun, -, hok, herror⟩ := Connection.showsFrom_bind
    (Peers.apart Server.access schema).server s.connection.target (newSurroundings mask script x)
  cases result with
  | error e =>
    obtain ⟨e', hbind⟩ := herror e rfl
    contradiction
  | ok c =>
    obtain ⟨info, hanswer, -, htarget, hextensions⟩ := hok c rfl
    obtain ⟨target, handle, extensions⟩ := c
    cases hanswer
    refine ⟨⟨⟨target, ScriptedServer.handle, extensions⟩, s.identity, .default⟩, ?_, ?_⟩
    · unfold Session.start
      rw [Session.checkIdentity_named hidentity, pure_bind]
      exact yields_bind (hrun log) fun log => yields_pure _ _
    · obtain rfl : target = s.connection.target := htarget
      obtain rfl : extensions = s.connection.extensions := hextensions.trans hmask.symm
      rw [← hhandle]
      rfl

theorem takes_anew {o : PullOrder} {part left : List Item} {x x' : τ} {outcome : Outcome} {script : List Item}
    (hsplit : script = part ++ left) (h : Decided schema s calls o script left x x' outcome) :
    ∃ alone, Takes (pullAnew (.apart Server.access schema) s.connection.target s.identity s.config calls o)
      (newSurroundings mask script x) alone part outcome := by
  refine ⟨⟨played ((newSurroundings mask script x).server.record (.bind Extensions.offered)) left outcome.requests,
    ⟨outcome.kept⟩, x'⟩, ?_, hsplit, ?_, rfl⟩
  · intro log
    obtain ⟨fresh, hstart, hsame⟩ := start_anew hhandle hmask hidentity schema script x log
    unfold pullAnew
    refine yields_bind hstart fun log => ?_
    rw [hsame]
    exact h _ .empty log rfl
  · rw [pulls_played]
    rfl

theorem pullEach_history (hcalls : w.server.script.length < calls) (orders : List PullOrder) :
    ∃ es after, es.map Episode.order = orders ∧
      (∀ log, Yields (s.pullEach (.apart Server.access schema) calls orders) ⟨w, log⟩
        (.ok (es.map (·.outcome.result))) after) ∧
      History schema mask s calls w es after := by
  induction orders generalizing w with
  | nil => exact ⟨[], w, rfl, fun log => yields_pure _ _, .done⟩
  | cons o orders ih =>
    obtain ⟨part, left, x', outcome, hsplit, hcomplete, hdecided⟩ := exists_decided schema s o hcalls w.schema
    obtain ⟨alone, halone⟩ := takes_anew hhandle hmask hidentity hsplit hdecided
    have hrun := fun log => hdecided w.server w.store log rfl
    have hleft : left.length < calls := by
      have := congrArg List.length hsplit
      rw [List.length_append] at this
      omega
    obtain ⟨es, after, horders, hyields, hhistory⟩ :=
      @ih ⟨played w.server left outcome.requests, ⟨w.store.chunks ++ outcome.kept⟩, x'⟩ hleft
    refine ⟨⟨o, part, outcome⟩ :: es, after, ?_, ?_, ?_⟩
    · rw [List.map_cons, horders]
    · intro log
      unfold Session.pullEach
      refine yields_bind (yields_attempt (hrun log)) fun log => ?_
      exact yields_bind (hyields log) fun log => yields_pure _ _
    · exact .next ⟨hrun, hsplit, pulls_played _ _ _, rfl⟩ halone hcomplete hhistory

/-- **Pulls and their history.** -/
theorem pullEach_independent (schema : SchemaAccess τ) (hcalls : Server.pullBound w.server ≤ calls)
    (orders : List PullOrder) : ∃ es after, Independent schema mask s calls w orders es after := by
  obtain ⟨es, after, horders, hyields, hhistory⟩ := pullEach_history hhandle hmask hidentity hcalls orders
  exact ⟨es, after, horders, hyields, hhistory, hhistory.script, hhistory.requests, hhistory.kept⟩

end

/-- The second page breaks two rules and ends the first pull; the third page is all that the second pull gets; the last
pull finds nothing left. -/
def brokenScript : List Item := [goodPage 2 ["CN=a", "CN=b"] true, badPage, goodPage 9 ["CN=c"] false]

def brokenOrders : List PullOrder :=
  [⟨"DC=example", .nil, .nil, .default⟩, ⟨"CN=Configuration", .nil, .nil, ⟨false, true, .none, none⟩⟩,
    ⟨"DC=example", .nil, .nil, .default⟩]

theorem pullEach_independent_broken :
    (Session.ofLimit ScriptedServer.handle 2).connection.handle = ScriptedServer.handle ∧
      (Session.ofLimit ScriptedServer.handle 2).connection.extensions = Extensions.offered.inter Extensions.offered ∧
      (Session.ofLimit ScriptedServer.handle 2).identity ≠ .nil ∧
      Server.pullBound (newSurroundings .offered brokenScript ()).server ≤ 4 ∧
      ∃ es after, Independent .unasked .offered (.ofLimit ScriptedServer.handle 2) 4
        (newSurroundings .offered brokenScript ()) brokenOrders es after :=
  ⟨rfl, by decide, by decide, by decide,
    pullEach_independent rfl (by decide) (by decide) .unasked (by decide) brokenOrders⟩

end DirectoryPull
