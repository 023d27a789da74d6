import DirectoryPull.Proofs.Pull.Pages
import Mathlib.Data.List.Perm.Subperm

/-!
# Cursors set back on the first page

The first request of a pull stands at the zero cursor, and a reply that sets the cursor to zero is not behind it. If
more pages follow, the client asks for the first page once more, as often as this happens in a row.
-/

namespace DirectoryPull.Paged

open DirectoryPull.Action Session DirectoryServer

/-! ## How often the first page comes again -/

/-- So many times a pull of some pages is sent back from the first page. -/
structure Repeats (server : DirectoryServer) (pages count : Nat) : Prop where
  rewound : ∀ i < count, server.ahead i = some .rewindCursor
  paged : 0 < count → 1 < pages
  last : 1 < pages → server.ahead count ≠ some .rewindCursor

theorem length_le_entries {ν : Type} (t : Table Nat ν) (first : Nat) {count : Nat}
    (h : ∀ i < count, t.get? (first + i) ≠ none) : count ≤ t.entries.length := by
  have hnodup : ((List.range count).map (first + ·)).Nodup :=
    List.Pairwise.map (first + ·) (fun _ _ hne heq => hne (Nat.add_left_cancel heq)) List.nodup_range
  have hsub : (List.range count).map (first + ·) ⊆ t.entries.map Prod.fst := by
    intro key hkey
    obtain ⟨i, hi, rfl⟩ := List.mem_map.mp hkey
    obtain ⟨fault, hfault⟩ := Option.ne_none_iff_exists'.mp (h i (List.mem_range.mp hi))
    exact Table.mem_keys hfault
  have hle := (List.subperm_of_subset hnodup hsub).length_le
  rwa [List.length_map, List.length_range, List.length_map] at hle

theorem exists_repeats (server : DirectoryServer) (pages : Nat) :
    ∃ count, Repeats server pages count ∧ count ≤ server.faults.entries.length := by
  by_cases hpages : 1 < pages
  · rcases all_or_first (fun i => server.ahead i = some .rewindCursor) (server.faults.entries.length + 1) with
      hall | ⟨count, hcount, hbefore, hlast⟩
    · have := length_le_entries server.faults server.pulls.length fun i hi => by
        rw [← ahead, hall i hi]
        simp
      omega
    · exact ⟨count, ⟨hbefore, fun _ => hpages, fun _ => hlast⟩, by omega⟩
  · exact ⟨0, ⟨by simp, by simp, fun h => absurd h hpages⟩, Nat.zero_le _⟩

/-! ## Runs -/

section

variable {τ : Type} (w : Surroundings DirectoryServer τ) (schema : Bool) (r : PullRequest)
  (objects : List NumberedObject)

/-- What the store keeps of a first page that does not count. -/
def keptAgain : StoredChunk := { keptPage schema r objects 0 with newCursor := .zero }

/-- What a pull has left behind that was sent back so many times. -/
def rewound (count : Nat) : Surroundings DirectoryServer τ :=
  ⟨w.server.served (List.replicate count r),
    ⟨w.store.chunks ++ List.replicate count (keptAgain schema r objects)⟩, w.schema⟩

def statsAgain (start : PullStats) (count : Nat) : PullStats :=
  ⟨start.level, start.chunks + count, start.objects + count * (pageAt objects (pageSize r) 0).length, .zero⟩

theorem rewound_succ (count : Nat) : rewound w schema r objects (count + 1) =
    ⟨(rewound w schema r objects count).server.counted r,
      ⟨(rewound w schema r objects count).store.chunks ++ [keptAgain schema r objects]⟩, w.schema⟩ := by
  simp only [rewound, List.replicate_succ', served_snoc, List.append_assoc]

theorem rewound_ahead (count i : Nat) :
    (rewound w schema r objects count).server.ahead i = w.server.ahead (count + i) := by
  rw [rewound, ahead_served, List.length_replicate]

variable {w r} in
theorem rewound_done {pages count : Nat} (h : Repeats w.server pages count) (hpages : 1 < pages) :
    (rewound w schema r objects count).server.ahead 0 ≠ some .rewindCursor := by
  rw [rewound_ahead, Nat.add_zero]
  exact h.last hpages

theorem dns_rewound (count : Nat) : (rewound w schema r objects count).store.dns =
    w.store.dns ++ (List.replicate count (names (pageAt objects (pageSize r) 0))).flatten := by
  rw [rewound, ChunkStore.dns, List.flatMap_append, List.flatMap_replicate]
  rfl

end

section

variable {τ : Type} {access : SchemaAccess τ} {s : Session} {options : PullOptions} {calls : Nat} {start : PullStats}
  {r : PullRequest} {objects : List NumberedObject} {w world : Surroundings DirectoryServer τ}
  {result : Except ReplicationError (Option PullStats)} (h : Offers r objects s w.server)
include h

theorem more_first : (page objects r).more = true ↔ 1 < pageCount objects (pageSize r) := by
  have := more_asked h.ascending (r := r) (i := 0)
  rwa [asked_zero h.fromZero, Nat.zero_add] at this

theorem add_rewound (count : Nat) :
    (statsAgain r objects start count).add { page objects r with newCursor := .zero } =
      statsAgain r objects start (count + 1) := by
  have hsent := sent_asked h.ascending (r := r) (i := 0)
  rw [asked_zero h.fromZero] at hsent
  simp only [PullStats.add, page_count, hsent, statsAgain, Nat.add_assoc, Nat.succ_mul]

theorem pullAll_rewound (hstart : start.cursor = .zero) {count : Nat}
    (hrepeats : Repeats w.server (pageCount objects (pageSize r)) count)
    (hrest : ∀ log, Yields (pullAll (ends access) s options calls r (statsAgain r objects start count))
      ⟨rewound w options.schema r objects count, log⟩ result world) (log : List Event) :
    Yields (pullAll (ends access) s options (calls + count) r start) ⟨w, log⟩ result world := by
  obtain ⟨hrewound, hpaged, -⟩ := hrepeats
  induction count generalizing calls log with
  | zero =>
    have hstats : statsAgain r objects start 0 = start := by
      rw [statsAgain, ← hstart]
      simp
    have hworld : rewound w options.schema r objects 0 = w := by simp [rewound, DirectoryServer.served]
    rw [hstats, hworld] at hrest
    exact hrest log
  | succ count ih =>
    have hpages := hpaged (Nat.succ_pos count)
    have hahead := rewound_ahead w options.schema r objects count 0
    rw [Nat.add_zero, hrewound count (Nat.lt_succ_self count)] at hahead
    have hnext : calls + (count + 1) = calls + 1 + count := by omega
    have hagain : r.withCursor .zero = r := by rw [← h.fromZero, PullRequest.withCursor_self]
    rw [hnext]
    refine ih (fun log' => ?_) log (fun i hi => hrewound i (by omega)) (fun _ => hpages)
    refine pullAll_more (pullChunk_rewound (h.served _) hahead) ((more_first h).mpr hpages) fun log'' => ?_
    rw [hagain, add_rewound h]
    rw [rewound_succ] at hrest
    exact hrest log''

variable (access options) in
/-- Once it is not sent back any more, a pull brings the objects in order and leaves none of them out. -/
theorem pullAll_delivers (hstart : start.cursor = .zero) (hcalls : pageCount objects (pageSize r) ≤ calls)
    (hfirst : 1 < pageCount objects (pageSize r) → w.server.ahead 0 ≠ some .rewindCursor) :
    ∃ result after delivered,
      (∀ log, Yields (pullAll (ends access) s options calls r start) ⟨w, log⟩ result after) ∧
      after.store.dns = w.store.dns ++ delivered ∧ delivered <+: names objects ∧
      ∀ stats, result = .ok stats → stats ≠ none ∧ delivered = names objects := by
  have hsize := pageSize_pos r
  rcases quiet_or_struck w.server (pageCount objects (pageSize r)) with hclean | ⟨f, hf, hbefore, struck, hstruck⟩
  · refine ⟨_, _, names objects, pullAll_clean h hstart hcalls hclean, ?_, List.prefix_rfl, ?_⟩
    · rw [turned, dns_keptPages, take_pageCount hsize]
    · intro stats hstats
      rw [← Except.ok.inj hstats]
      exact ⟨by simp, rfl⟩
  by_cases hrewind : struck = .rewindCursor → 0 < f
  · refine ⟨_, _, names (objects.take (f * pageSize r)), pullAll_struck h hstart hf (by omega) hbefore hstruck hrewind,
      dns_keptPages objects w.store options.schema r f, (List.take_prefix _ _).map _, ?_⟩
    intro stats hstats
    contradiction
  · -- The only page comes with a cursor set back, and no call follows it.
    obtain ⟨rfl, hzero⟩ := Classical.not_imp.mp hrewind
    obtain rfl : f = 0 := by omega
    have hone : pageCount objects (pageSize r) = 1 := by
      have : ¬ 1 < pageCount objects (pageSize r) := fun hpages => hfirst hpages hstruck
      omega
    have hlast : (page objects r).more = false := by
      rw [Bool.eq_false_iff, Ne, more_first h]
      omega
    obtain ⟨calls, rfl⟩ : ∃ n, calls = n + 1 := ⟨calls - 1, by omega⟩
    refine ⟨_, _, names objects, fun log => pullAll_last (pullChunk_rewound h hstruck) hlast, ?_, List.prefix_rfl, ?_⟩
    · have htake : objects.take (pageCount objects (pageSize r) * pageSize r) = objects := take_pageCount hsize
      rw [hone, Nat.one_mul] at htake
      simp [ChunkStore.dns, keptPage, pageAt, htake]
    · intro stats hstats
      rw [← Except.ok.inj hstats]
      exact ⟨by simp, rfl⟩

end

/-! ## A whole pull -/

theorem pageSize_firstRequest (s : Session) (dn : String) (source destination : Guid) (options : PullOptions)
    (set : Option AttributeSet) :
    pageSize (firstRequest s dn source destination options set) = max s.config.maxObjects.toNat 1 := by
  rw [pageSize, firstRequest_terms]
  rfl

/-- What a pull delivers of some objects, going by what the schema made of its request: nothing where there is no
request, and otherwise the first page some times more, and then the objects in order. -/
def RepeatsPost {τ : Type} (size : Nat) (objects : List NumberedObject) (before after : Surroundings DirectoryServer τ)
    (result : Except ReplicationError (Option PullStats)) : Except ReplicationError (Option AttributeSet) → Prop
  | .error e => result = .error e ∧ after.server = before.server ∧ after.store = before.store
  | .ok _ => ∃ count delivered, Repeats before.server (pageCount objects size) count ∧
    after.store.dns = before.store.dns ++ (List.replicate count (names (pageAt objects size 0))).flatten ++ delivered ∧
    delivered <+: names objects ∧ ∀ stats, result = .ok stats → stats ≠ none ∧ delivered = names objects

section

variable {τ : Type} (access : SchemaAccess τ) (s : Session) (options : PullOptions) {calls : Nat}
  {w : Surroundings DirectoryServer τ} {r : PullRequest} {objects : List NumberedObject}

theorem pullAll_repeats (h : Offers r objects s w.server)
    (hcalls : pageCount objects (pageSize r) + w.server.faults.entries.length ≤ calls)
    (set : Option AttributeSet) : ∃ result after,
      (∀ log, Yields (pullAll (ends access) s options calls r (.start r.level)) ⟨w, log⟩ result after) ∧
      RepeatsPost (pageSize r) objects w after result (.ok set) := by
  obtain ⟨count, hrepeats, hcount⟩ := exists_repeats w.server (pageCount objects (pageSize r))
  obtain ⟨spare, rfl⟩ : ∃ n, calls = n + count := ⟨calls - count, by omega⟩
  have hspare : pageCount objects (pageSize r) ≤ spare := by omega
  have hagain : Offers r objects s (rewound w options.schema r objects count).server := h.served _
  have hstart : (statsAgain r objects (.start r.level) count).cursor = .zero := rfl
  obtain ⟨result, after, delivered, hrun, hdns, hprefix, hall⟩ :=
    pullAll_delivers access options hagain hstart hspare (rewound_done options.schema objects hrepeats)
  refine ⟨result, after, pullAll_rewound h rfl hrepeats hrun, count, delivered, hrepeats, ?_, hprefix, hall⟩
  rw [hdns, dns_rewound]

end

/-- **Repeated pages.** A pull brings the objects of a naming context in order, none of them twice and none left out,
except that the first page comes once more for every call in a row that sets the cursor back on it. -/
theorem replicate_repeats {τ : Type} (access : SchemaAccess τ) (s : Session) (options : PullOptions) (dn : String)
    (source destination : Guid) (calls : Nat) (scene : Scene (Surroundings DirectoryServer τ))
    (objects : List NumberedObject) (hreach : Reachable scene.world.server)
    (hhandle : s.connection.handle = DirectoryServer.handle)
    (hobjects : scene.world.server.contexts.get? dn = some objects)
    (hcalls : Server.pullBound scene.world.server ≤ calls) :
    ∃ made built result after,
      Call.Answers (wanted (ends access).schema options) scene made built ∧
      Yields (replicate (ends access) s calls dn source destination options) scene result after ∧
      RepeatsPost (max s.config.maxObjects.toNat 1) objects scene.world after result made := by
  obtain ⟨made, built, hmade⟩ := Call.exists_answers (wanted (ends access).schema options) scene
  have hworld := wanted_world Server.access access hmade
  cases made with
  | error e =>
    refine ⟨.error e, built, .error e, built.world, hmade, replicate_unmade hmade, rfl, ?_, ?_⟩ <;> rw [hworld]
  | ok set =>
    have hoffers := offers_firstRequest s options dn source destination set objects hreach hhandle hobjects
    have hpages := pageCount_le_pullBound s objects hoffers hreach
    have hserver : built.world.server = scene.world.server := by rw [hworld]
    rw [← hserver] at hoffers hpages hcalls
    obtain ⟨result, after, hrun, hpost⟩ := pullAll_repeats access s options hoffers (Nat.le_trans hpages hcalls) set
    rw [hworld, pageSize_firstRequest] at hpost
    exact ⟨.ok set, built, result, after, hmade, replicate_yields hmade hrun, hpost⟩

/-- Two objects, and the first call sets the cursor back. -/
def rewoundServer : DirectoryServer :=
  ((DirectoryServer.full.addObject "DC=a" "CN=1,DC=a").addObject "DC=a" "CN=2,DC=a").inject 0 .rewindCursor

def rewoundScene : Scene (Surroundings DirectoryServer Unit) := ⟨⟨rewoundServer, .empty, ()⟩, []⟩

def rewoundObjects : List NumberedObject := [⟨1, newObject (.ofDn "CN=1,DC=a")⟩, ⟨2, newObject (.ofDn "CN=2,DC=a")⟩]

theorem reachable_rewoundServer : Reachable rewoundServer :=
  (((Reachable.fresh _).addObject "DC=a" "CN=1,DC=a" (by decide)).addObject "DC=a" "CN=2,DC=a" (by decide)).step
    (.inject 0 .rewindCursor) trivial

/-- With pages of one object the first of the two comes twice. -/
theorem first_page_repeats :
    Reachable rewoundServer ∧ rewoundServer.contexts.get? "DC=a" = some rewoundObjects ∧
      ∃ after,
        Yields (replicate (ends .unasked) (.ofLimit DirectoryServer.handle 1) 5 "DC=a" .nil .nil .default) rewoundScene
          (.ok (some ⟨8, 3, 3, ⟨2, 0, 2⟩⟩)) after ∧
        after.store.dns = ["CN=1,DC=a", "CN=1,DC=a", "CN=2,DC=a"] ∧ ¬ after.store.dns <+: names rewoundObjects :=
  ⟨reachable_rewoundServer, rfl, _, ⟨_, rfl⟩, rfl, by decide⟩

theorem replicate_repeats_rewound :
    rewoundServer.contexts.get? "DC=a" = some rewoundObjects ∧ Server.pullBound rewoundServer ≤ 5 ∧
      ∃ made built result after,
        Call.Answers (wanted (ends .unasked).schema .default) rewoundScene made built ∧
        Yields (replicate (ends .unasked) (.ofLimit DirectoryServer.handle 1) 5 "DC=a" .nil .nil .default) rewoundScene
          result after ∧
        RepeatsPost 1 rewoundObjects rewoundScene.world after result made :=
  ⟨rfl, by decide,
    replicate_repeats .unasked (.ofLimit DirectoryServer.handle 1) .default "DC=a" .nil .nil 5 rewoundScene
      rewoundObjects reachable_rewoundServer rfl rfl (by decide)⟩

end DirectoryPull.Paged
