import DirectoryPull.Proofs.Server.Paging

/-!
# Pulls of a naming context

A pull takes one page after the other. A fault ends it, save that a cursor set back to zero on the first page goes
unnoticed: the next call brings that page once more.
-/

namespace DirectoryPull.Paged

open DirectoryPull.Action Session DirectoryServer

/-- The error that a fault ends a pull with. -/
def failure (target : String) (cursor : Cursor) (onPage : List NumberedObject) : PullFault → ReplicationError
  | .error e => .connection target e
  | .dropObjects => .contract (.missingObjects (max (Chunk.countOf onPage.length) 1))
  | .rewindCursor => .contract (.cursorMovedBack cursor .zero)

/-- A directory server and a chunk store, with any schema. -/
abbrev ends {τ : Type} (access : SchemaAccess τ) : Peers (Surroundings DirectoryServer τ) :=
  .apart Server.access access

/-! ## How far a pull has come -/

section

variable {τ : Type} (w : Surroundings DirectoryServer τ) (schema : Bool) (r : PullRequest)
  (objects : List NumberedObject)

def asked (i : Nat) : PullRequest := r.withCursor (cursorAt objects (pageSize r) i)

/-- What the store keeps of a page. -/
def keptPage (i : Nat) : StoredChunk :=
  ⟨replyLevel r, r.level, schema, cursorAt objects (pageSize r) i, cursorAt objects (pageSize r) (i + 1),
    names (pageAt objects (pageSize r) i)⟩

/-- What a pull has left behind in front of a page. -/
def turned (i : Nat) : Surroundings DirectoryServer τ :=
  ⟨w.server.served ((List.range i).map (asked r objects)),
    ⟨w.store.chunks ++ (List.range i).map (keptPage schema r objects)⟩, w.schema⟩

def statsAt (start : PullStats) (i : Nat) : PullStats :=
  ⟨start.level, start.chunks + i, start.objects + (objects.take (i * pageSize r)).length,
    cursorAt objects (pageSize r) i⟩

/-- The server has the objects for a session that starts with the request. -/
structure Offers (s : Session) (server : DirectoryServer) : Prop where
  bound : s.connection.handle = DirectoryServer.handle
  fromZero : r.terms.cursor = .zero
  ascending : Ascending server.nextUsn objects
  registered : server.contexts.get? r.terms.context.dn = some objects

end

@[simp]
theorem pageSize_withCursor (c : Cursor) (r : PullRequest) : pageSize (r.withCursor c) = pageSize r := by
  simp [pageSize]

@[simp]
theorem replyLevel_withCursor (c : Cursor) (r : PullRequest) : replyLevel (r.withCursor c) = replyLevel r := by
  cases r <;> rfl

section

variable {τ : Type} {w : Surroundings DirectoryServer τ} {r : PullRequest} {objects : List NumberedObject}
  {s : Session} {server : DirectoryServer}

theorem asked_zero (hzero : r.terms.cursor = .zero) : asked r objects 0 = r := by
  rw [asked, cursorAt_zero, ← hzero, PullRequest.withCursor_self]

theorem asked_succ (i : Nat) :
    (asked r objects i).withCursor (cursorAt objects (pageSize r) (i + 1)) = asked r objects (i + 1) :=
  PullRequest.withCursor_withCursor _ _ _

theorem asked_cursor (i : Nat) : (asked r objects i).terms.cursor = cursorAt objects (pageSize r) i := by
  simp [asked]

theorem asked_pageSize (i : Nat) : pageSize (asked r objects i) = pageSize r := pageSize_withCursor _ _

theorem Offers.served (h : Offers r objects s server) (rs : List PullRequest) :
    Offers r objects s (server.served rs) := by
  obtain ⟨hc, hn⟩ := Prod.mk.inj (served_holdings server rs)
  refine ⟨h.bound, h.fromZero, ?_, ?_⟩
  · rw [hn]
    exact h.ascending
  · rw [hc]
    exact h.registered

theorem Offers.pull_page (h : Offers r objects s server) (c : Cursor) {fault : Option PullFault}
    (hf : server.ahead 0 = fault) (hok : ∀ e, fault ≠ some (.error e)) :
    pull s.connection.handle (r.withCursor c) server =
      .ok ⟨replyLevel (r.withCursor c), PullFault.spoil (page objects (r.withCursor c)) fault⟩
        (server.counted (r.withCursor c)) := by
  have hregistered : server.contexts.get? (r.withCursor c).terms.context.dn = some objects := by
    rw [PullRequest.terms_withCursor]
    exact h.registered
  rw [h.bound]
  exact DirectoryServer.pull_page hregistered hf hok

/-! ## The page of a request -/

section

variable {next : UInt64} (h : Ascending next objects) {i : Nat}
include h

theorem sent_asked : sent objects (asked r objects i) = pageAt objects (pageSize r) i := by
  rw [sent_pageAt h (by rw [asked_cursor, asked_pageSize]), asked_pageSize]

theorem more_asked : (page objects (asked r objects i)).more = true ↔ i + 1 < pageCount objects (pageSize r) := by
  rw [more_pageAt h (by rw [asked_cursor, asked_pageSize]), asked_pageSize]

theorem newCursor_asked (hi : i < pageCount objects (pageSize r)) :
    (page objects (asked r objects i)).newCursor = cursorAt objects (pageSize r) (i + 1) := by
  rw [cursor_pageAt h (by rw [asked_cursor, asked_pageSize]) (by rwa [asked_pageSize]), asked_pageSize]

theorem stored_asked (schema : Bool) (hi : i < pageCount objects (pageSize r)) :
    Delivery.stored ⟨replyLevel (asked r objects i), page objects (asked r objects i), schema, asked r objects i⟩ =
      keptPage schema r objects i := by
  rw [Delivery.stored, page_dns, sent_asked h, newCursor_asked h hi, asked_cursor]
  simp [asked, keptPage]

theorem add_asked (start : PullStats) (hi : i < pageCount objects (pageSize r)) :
    (statsAt r objects start i).add (page objects (asked r objects i)) = statsAt r objects start (i + 1) := by
  rw [PullStats.add, page_count, newCursor_asked h hi, sent_asked h, statsAt, statsAt, take_succ_pages,
    List.length_append]
  simp only [Nat.add_assoc]

end

theorem max_one_ne_zero (count : UInt32) : max count 1 ≠ 0 := by
  change (if count ≤ 1 then 1 else count) ≠ 0
  split
  · decide
  · next h =>
    rintro rfl
    exact h (by decide)

/-! ## One call -/

section

variable {access : SchemaAccess τ} {options : PullOptions} {v : Surroundings DirectoryServer τ} {log : List Event}
  {i : Nat} (h : Offers r objects s v.server)
include h

theorem pullChunk_page (hi : i < pageCount objects (pageSize r)) (hf : v.server.ahead 0 = none) :
    Yields (pullChunk (ends access) s options (asked r objects i)) ⟨v, log⟩ (.ok (page objects (asked r objects i)))
      ⟨v.server.counted (asked r objects i), ⟨v.store.chunks ++ [keptPage options.schema r objects i]⟩, v.schema⟩ := by
  rw [← stored_asked h.ascending options.schema hi]
  exact pullChunk_stored Server.access access s options _ v log (h.pull_page _ hf (by simp)) (page_good objects _)

theorem pullChunk_struck (hi : i < pageCount objects (pageSize r)) {fault : PullFault}
    (hf : v.server.ahead 0 = some fault) (hrewind : fault = .rewindCursor → 0 < i) :
    Yields (pullChunk (ends access) s options (asked r objects i)) ⟨v, log⟩
      (.error (failure s.connection.target (cursorAt objects (pageSize r) i) (pageAt objects (pageSize r) i) fault))
      { v with server := v.server.counted (asked r objects i) } := by
  cases fault with
  | error e =>
    have hpull : pull s.connection.handle (asked r objects i) v.server =
        .error e (v.server.counted (asked r objects i)) := by
      rw [h.bound]
      exact pull_error hf
    exact pullChunk_refused Server.access access s options _ v log hpull
  | dropObjects =>
    rw [failure, ← sent_asked h.ascending, ← page_countOf]
    exact pullChunk_breach Server.access access s options _ v log (h.pull_page _ hf (by simp))
      (Chunk.breach_missing ⟨max_one_ne_zero _, rfl⟩)
  | rewindCursor =>
    rw [failure, ← asked_cursor]
    refine pullChunk_breach Server.access access s options _ v log (h.pull_page _ hf (by simp))
      (Chunk.breach_back ?_ ?_)
    · exact (Chunk.good_iff.mp (page_good objects (asked r objects i))).1
    · rw [PullRequest.terms_withCursor]
      exact not_cursorAt_le_zero h.ascending (pageSize_pos r) (hrewind rfl) hi

/-- On the first page the cursor of the request is zero, so one that is set back is not behind it. -/
theorem pullChunk_rewound (hf : v.server.ahead 0 = some .rewindCursor) :
    Yields (pullChunk (ends access) s options r) ⟨v, log⟩ (.ok { page objects r with newCursor := .zero })
      ⟨v.server.counted r, ⟨v.store.chunks ++ [{ keptPage options.schema r objects 0 with newCursor := .zero }]⟩,
        v.schema⟩ := by
  have hpull := h.pull_page r.terms.cursor hf (by simp)
  rw [PullRequest.withCursor_self] at hpull
  obtain ⟨hlisted, -, hcounted⟩ := page_good objects r
  have hforward : r.terms.cursor ≤ .zero := by
    rw [h.fromZero]
    decide
  have hgood : (PullFault.spoil (page objects r) (some .rewindCursor)).Good r.terms.cursor :=
    ⟨hlisted, hforward, hcounted⟩
  have hstored := stored_asked h.ascending options.schema (pageCount_pos objects (pageSize r))
  rw [asked_zero h.fromZero] at hstored
  rw [← hstored]
  exact pullChunk_stored Server.access access s options r v log hpull hgood

end

/-! ## Call after call -/

section

variable (w : Surroundings DirectoryServer τ) (schema : Bool) (r : PullRequest) (objects : List NumberedObject)

theorem turned_zero : turned w schema r objects 0 = w := by
  simp [turned, DirectoryServer.served]

theorem turned_succ (i : Nat) :
    turned w schema r objects (i + 1) = ⟨(turned w schema r objects i).server.counted (asked r objects i),
      ⟨(turned w schema r objects i).store.chunks ++ [keptPage schema r objects i]⟩, w.schema⟩ := by
  simp only [turned, List.range_succ, List.map_append, List.map_cons, List.map_nil, served_snoc, List.append_assoc]

theorem turned_ahead (i : Nat) : (turned w schema r objects i).server.ahead 0 = w.server.ahead i := by
  rw [turned, ahead_served, List.length_map, List.length_range, Nat.add_zero]

end

section

variable {access : SchemaAccess τ} {options : PullOptions} {calls : Nat} {start : PullStats}
  {result : Except ReplicationError (Option PullStats)} {world : Surroundings DirectoryServer τ}
  (h : Offers r objects s w.server)
include h

/-- A pull comes to a page if no fault strikes before. How it goes on from there is how it goes on as a whole. -/
theorem pullAll_reach (hstart : start.cursor = .zero) {i : Nat} (hi : i < pageCount objects (pageSize r))
    (hclean : ∀ j < i, w.server.ahead j = none)
    (hrest : ∀ log, Yields (pullAll (ends access) s options calls (asked r objects i) (statsAt r objects start i))
      ⟨turned w options.schema r objects i, log⟩ result world) (log : List Event) :
    Yields (pullAll (ends access) s options (calls + i) r start) ⟨w, log⟩ result world := by
  induction i generalizing calls log with
  | zero =>
    have hstats : statsAt r objects start 0 = start := by
      rw [statsAt, cursorAt_zero, ← hstart]
      simp
    rw [turned_zero, asked_zero h.fromZero, hstats] at hrest
    exact hrest log
  | succ i ih =>
    have hfault := turned_ahead w options.schema r objects i
    rw [hclean i (Nat.lt_succ_self i)] at hfault
    have hnext : calls + (i + 1) = calls + 1 + i := by omega
    rw [hnext]
    refine ih (by omega) (fun j hj => hclean j (by omega)) (fun log' => ?_) log
    refine pullAll_more (pullChunk_page (h.served _) (by omega) hfault)
      ((more_asked h.ascending).mpr hi) fun log'' => ?_
    rw [newCursor_asked h.ascending (by omega), asked_succ, add_asked h.ascending start (by omega)]
    rw [turned_succ] at hrest
    exact hrest log''

theorem pullAll_clean (hstart : start.cursor = .zero) (hcalls : pageCount objects (pageSize r) ≤ calls)
    (hclean : ∀ j < pageCount objects (pageSize r), w.server.ahead j = none) (log : List Event) :
    Yields (pullAll (ends access) s options calls r start) ⟨w, log⟩
      (.ok (some (statsAt r objects start (pageCount objects (pageSize r)))))
      (turned w options.schema r objects (pageCount objects (pageSize r))) := by
  obtain ⟨last, hlast⟩ := Nat.exists_eq_succ_of_ne_zero (Nat.ne_of_gt (pageCount_pos objects (pageSize r)))
  have hi : last < pageCount objects (pageSize r) := by omega
  obtain ⟨spare, rfl⟩ : ∃ n, calls = n + 1 + last := ⟨calls - 1 - last, by omega⟩
  refine pullAll_reach h hstart hi (fun j hj => hclean j (by omega)) (fun log' => ?_) log
  have hfault := turned_ahead w options.schema r objects last
  rw [hclean last hi] at hfault
  have hmore : (page objects (asked r objects last)).more = false := by
    rw [Bool.eq_false_iff, Ne, more_asked h.ascending]
    omega
  rw [hlast, turned_succ, ← add_asked h.ascending start hi]
  exact pullAll_last (pullChunk_page (h.served _) hi hfault) hmore

theorem pullAll_struck (hstart : start.cursor = .zero) {i : Nat} (hi : i < pageCount objects (pageSize r))
    (hcalls : i < calls) (hclean : ∀ j < i, w.server.ahead j = none) {fault : PullFault}
    (hf : w.server.ahead i = some fault) (hrewind : fault = .rewindCursor → 0 < i) (log : List Event) :
    Yields (pullAll (ends access) s options calls r start) ⟨w, log⟩
      (.error (failure s.connection.target (cursorAt objects (pageSize r) i) (pageAt objects (pageSize r) i) fault))
      { turned w options.schema r objects i with
        server := (turned w options.schema r objects (i + 1)).server } := by
  obtain ⟨spare, rfl⟩ : ∃ n, calls = n + 1 + i := ⟨calls - 1 - i, by omega⟩
  refine pullAll_reach h hstart hi hclean (fun log' => ?_) log
  have hfault := turned_ahead w options.schema r objects i
  rw [hf] at hfault
  rw [turned_succ]
  exact pullAll_error (pullChunk_struck (h.served _) hi hfault hrewind)

end

end

/-! ## A whole pull -/

section

variable {τ : Type} (access : SchemaAccess τ) (s : Session) (options : PullOptions) (dn : String)
  (source destination : Guid) (calls : Nat) (scene built : Scene (Surroundings DirectoryServer τ))
  (set : Option AttributeSet) (objects : List NumberedObject)

theorem offers_firstRequest {server : DirectoryServer} (hreach : Reachable server)
    (hhandle : s.connection.handle = DirectoryServer.handle) (hobjects : server.contexts.get? dn = some objects) :
    Offers (firstRequest s dn source destination options set) objects s server := by
  refine ⟨hhandle, ?_, hreach.numbered.ascending dn objects hobjects, ?_⟩
  · rw [firstRequest_terms]
    rfl
  · rw [firstRequest_terms]
    exact hobjects

theorem pageCount_le_pullBound {server : DirectoryServer} {r : PullRequest} (h : Offers r objects s server)
    (hreach : Reachable server) :
    pageCount objects (pageSize r) + server.faults.entries.length ≤ Server.pullBound server := by
  have hcount : pageCount objects (pageSize r) ≤ objects.length + 1 := pageCount_le (pageSize_pos r)
  have hlen := h.ascending.length_lt hreach.numbered.started
  have hbound : Server.pullBound server = server.nextUsn.toNat + server.faults.entries.length + 1 := rfl
  omega

/-- The totals of a pull fit into 64 bits, since every object has used up an update number. -/
theorem totals_fit {server : DirectoryServer} {r : PullRequest} (h : Offers r objects s server)
    (hstarted : 0 < server.nextUsn) :
    pageCount objects (pageSize r) < UInt64.size ∧ objects.length < UInt64.size := by
  have hcount : pageCount objects (pageSize r) ≤ objects.length + 1 := pageCount_le (pageSize_pos r)
  have hlen := h.ascending.length_lt hstarted
  have hnext : server.nextUsn.toNat < UInt64.size := server.nextUsn.toNat_lt
  omega

theorem dns_keptPages (store : ChunkStore) (schema : Bool) (r : PullRequest) (count : Nat) :
    ChunkStore.dns ⟨store.chunks ++ (List.range count).map (keptPage schema r objects)⟩ =
      store.dns ++ names (objects.take (count * pageSize r)) := by
  rw [ChunkStore.dns, List.flatMap_append, List.flatMap_map, ← flatMap_names_pageAt]
  rfl

theorem length_dns_keptPage (schema : Bool) (r : PullRequest) {i : Nat} (hi : i + 1 < pageCount objects (pageSize r)) :
    (keptPage schema r objects i).dns.length = pageSize r := by
  rw [keptPage, names, List.length_map]
  exact length_pageAt (pageSize_pos r) hi

theorem all_or_first (p : Nat → Prop) (count : Nat) :
    (∀ i < count, p i) ∨ ∃ f < count, (∀ i < f, p i) ∧ ¬ p f := by
  induction count with
  | zero => exact Or.inl fun i hi => absurd hi (Nat.not_lt_zero i)
  | succ count ih =>
    rcases ih with hall | ⟨f, hf, hfirst⟩
    · by_cases hlast : p count
      · left
        intro i hi
        rcases Nat.lt_succ_iff_lt_or_eq.mp hi with hi | rfl
        · exact hall i hi
        · exact hlast
      · exact Or.inr ⟨count, Nat.lt_succ_self count, hall, hlast⟩
    · exact Or.inr ⟨f, Nat.lt_succ_of_lt hf, hfirst⟩

theorem quiet_or_struck (server : DirectoryServer) (count : Nat) : (∀ i < count, server.ahead i = none) ∨
    ∃ f < count, (∀ i < f, server.ahead i = none) ∧ ∃ struck, server.ahead f = some struck := by
  rcases all_or_first (fun i => server.ahead i = none) count with hquiet | ⟨f, hf, hbefore, hstruck⟩
  · exact Or.inl hquiet
  · exact Or.inr ⟨f, hf, hbefore, Option.ne_none_iff_exists'.mp hstruck⟩

/-- What a pull that starts with the request `first` makes of the objects of a naming context. -/
def PagedPost (target : String) (first : PullRequest) (schema : Bool) (before after : Surroundings DirectoryServer τ)
    (result : Except ReplicationError (Option PullStats)) : Prop :=
  let size := pageSize first
  let pages := pageCount objects size
  -- Every page that is stored is full, the last one excepted.
  (∀ i, i + 1 < pages → (keptPage schema first objects i).dns.length = size) ∧
  (pages < UInt64.size ∧ objects.length < UInt64.size) ∧
  ((∀ i < pages, before.server.ahead i = none) →
    result = .ok (some ⟨first.level, pages, objects.length, ⟨lastUsn objects, 0, lastUsn objects⟩⟩) ∧
    after.server = before.server.served ((List.range pages).map (asked first objects)) ∧
    after.server.pulls = before.server.pulls ++ (List.range pages).map (asked first objects) ∧
    after.store.chunks = before.store.chunks ++ (List.range pages).map (keptPage schema first objects) ∧
    after.store.dns = before.store.dns ++ names objects) ∧
  ∀ f < pages, (∀ i < f, before.server.ahead i = none) → ∀ struck, before.server.ahead f = some struck →
    result = .error (failure target (cursorAt objects size f) (pageAt objects size f) struck) ∧
    after.server = before.server.served ((List.range (f + 1)).map (asked first objects)) ∧
    after.server.pulls = before.server.pulls ++ (List.range (f + 1)).map (asked first objects) ∧
    after.store.chunks = before.store.chunks ++ (List.range f).map (keptPage schema first objects) ∧
    after.store.dns = before.store.dns ++ names (objects.take (f * size))

variable {objects} in
theorem pullAll_paged {w : Surroundings DirectoryServer τ} {first : PullRequest} (h : Offers first objects s w.server)
    (hstarted : 0 < w.server.nextUsn) (hfirst : w.server.ahead 0 ≠ some .rewindCursor)
    (hcalls : pageCount objects (pageSize first) ≤ calls) :
    ∃ result after,
      (∀ log, Yields (pullAll (ends access) s options calls first (.start first.level)) ⟨w, log⟩ result after) ∧
      PagedPost objects s.connection.target first options.schema w after result := by
  have hfits := totals_fit s objects h hstarted
  rcases quiet_or_struck w.server (pageCount objects (pageSize first)) with hclean | ⟨f, hf, hbefore, struck, hstruck⟩
  · refine ⟨_, _, pullAll_clean h rfl hcalls hclean, fun i => length_dns_keptPage objects options.schema first, hfits,
      ?_, ?_⟩
    · intro _
      refine ⟨?_, rfl, served_pulls _ _, rfl, ?_⟩
      · simp [statsAt, PullStats.start, take_pageCount (pageSize_pos first), cursorAt_pageCount (pageSize_pos first)]
      · rw [turned, dns_keptPages, take_pageCount (pageSize_pos first)]
    · intro f hf _ struck hstruck
      rw [hclean f hf] at hstruck
      contradiction
  · have hrewind : struck = .rewindCursor → 0 < f := by
      intro heq
      by_contra hzero
      obtain rfl : f = 0 := by omega
      exact hfirst (heq ▸ hstruck)
    refine ⟨_, _, pullAll_struck h rfl hf (by omega) hbefore hstruck hrewind,
      fun i => length_dns_keptPage objects options.schema first, hfits, ?_, ?_⟩
    · intro hclean
      rw [hclean f hf] at hstruck
      contradiction
    · intro f' hf' hbefore' struck' hstruck'
      have hge : ¬ f' < f := fun hlt => by simp [hbefore f' hlt] at hstruck'
      have hle : ¬ f < f' := fun hlt => by simp [hbefore' f hlt] at hstruck
      obtain rfl : f' = f := by omega
      rw [hstruck, Option.some.injEq] at hstruck'
      rw [hstruck']
      exact ⟨rfl, rfl, served_pulls _ _, rfl, dns_keptPages objects w.store options.schema first f'⟩

/-- **A pull of a naming context.** -/
theorem replicate_paged (hreach : Reachable scene.world.server)
    (hhandle : s.connection.handle = DirectoryServer.handle)
    (hobjects : scene.world.server.contexts.get? dn = some objects)
    (hset : wanted (ends access).schema options scene = .ok set built)
    (hfirst : scene.world.server.ahead 0 ≠ some .rewindCursor)
    (hcalls : Server.pullBound scene.world.server ≤ calls) :
    ∃ result after,
      Yields (replicate (ends access) s calls dn source destination options) scene result after ∧
      PagedPost objects s.connection.target (firstRequest s dn source destination options set) options.schema
        scene.world after result := by
  have hmade : Call.Answers (wanted (ends access).schema options) scene (.ok set) built := hset
  have hworld := wanted_world Server.access access hmade
  have hoffers := offers_firstRequest s options dn source destination set objects hreach hhandle hobjects
  have hpages := pageCount_le_pullBound s objects hoffers hreach
  have hserver : built.world.server = scene.world.server := by rw [hworld]
  have hstarted := hreach.numbered.started
  rw [← hserver] at hoffers hstarted hfirst
  obtain ⟨result, after, hrun, hpost⟩ := pullAll_paged access s options calls hoffers hstarted hfirst (by omega)
  rw [hworld] at hpost
  exact ⟨result, after, replicate_yields hmade hrun, hpost⟩

end

/-- Two contexts that were filled by turns, and a fault in store for the second call. -/
def turnsServer : DirectoryServer :=
  (((DirectoryServer.full.addObject "DC=a" "CN=1,DC=a").populate "DC=b" 2).addObject "DC=a" "CN=2,DC=a").inject 1
    .dropObjects

def turnsScene : Scene (Surroundings DirectoryServer Unit) := ⟨⟨turnsServer, .empty, ()⟩, []⟩

theorem reachable_turnsServer : Reachable turnsServer :=
  ((((Reachable.fresh _).addObject "DC=a" "CN=1,DC=a" (by decide)).populate "DC=b" (by decide)).addObject "DC=a"
    "CN=2,DC=a" (by decide)).step (.inject 1 .dropObjects) trivial

theorem replicate_paged_turns :
    turnsServer.contexts.get? "DC=a" = some [⟨1, newObject (.ofDn "CN=1,DC=a")⟩, ⟨4, newObject (.ofDn "CN=2,DC=a")⟩] ∧
      turnsServer.ahead 0 ≠ some .rewindCursor ∧ Server.pullBound turnsServer ≤ 7 ∧
      ∃ result after,
        Yields (replicate (ends .unasked) (.ofLimit DirectoryServer.handle 1) 7 "DC=a" .nil .nil .default) turnsScene
          result after ∧
        PagedPost [⟨1, newObject (.ofDn "CN=1,DC=a")⟩, ⟨4, newObject (.ofDn "CN=2,DC=a")⟩] "dc1.example.com"
          (firstRequest (.ofLimit DirectoryServer.handle 1) "DC=a" .nil .nil .default none) false turnsScene.world after
          result :=
  ⟨rfl, by decide, by decide,
    replicate_paged .unasked (.ofLimit DirectoryServer.handle 1) .default "DC=a" .nil .nil 7 turnsScene turnsScene none
      _ reachable_turnsServer rfl rfl rfl (by decide) (by decide)⟩

end DirectoryPull.Paged
