import DirectoryPull.Proofs.Pull.Steps
import DirectoryPull.Server.Scripted

/-!
# Pulls from a script

A pull takes the leading replies of the script that are good and announce more, and then one item that decides
how it ends. What comes after that item stays in the script.
-/

namespace DirectoryPull.Script

open DirectoryPull.Action Session

abbrev Item := Except TransportError PullReply

/-- Each reply is good at the cursor of the one before it, and announces more. -/
def Leads (cursor : Cursor) : List PullReply → Prop
  | [] => True
  | r :: rest => r.chunk.Good cursor ∧ r.chunk.more = true ∧ Leads r.chunk.newCursor rest

def GoesOn (cursor : Cursor) (item : Option Item) : Prop :=
  ∃ r, item = some (.ok r) ∧ r.chunk.Good cursor ∧ r.chunk.more = true

/-- The cursor behind some replies. -/
def standing : Cursor → List PullReply → Cursor
  | cursor, [] => cursor
  | _, r :: rest => standing r.chunk.newCursor rest

/-- The cursors of the requests that some replies answer, and of the request after them. -/
def sent (cursor : Cursor) (replies : List PullReply) : List Cursor :=
  cursor :: replies.map (·.chunk.newCursor)

/-- How a pull ends with an item. Of the rules that a reply breaks, the first one counts. -/
def judge (target : String) (cursor : Cursor) : Option Item → Except ReplicationError PullReply
  | none => .error (.connection target (.fault 0 "no scripted pull reply"))
  | some (.error e) => .error (.connection target e)
  | some (.ok r) =>
    if r.chunk.count ≠ 0 ∧ r.chunk.chain = [] then .error (.contract (.missingObjects r.chunk.count))
    else if ¬ cursor ≤ r.chunk.newCursor then .error (.contract (.cursorMovedBack cursor r.chunk.newCursor))
    else if r.chunk.chain.length ≠ r.chunk.count.toNat then
      .error (.apply (.rejected
        s!"object list holds {r.chunk.chain.length} objects, count says {r.chunk.count}"))
    else .ok r

/-- What the store keeps of the replies, each with the cursor that it answers. -/
def kept (level : UInt32) (schema : Bool) (cursor : Cursor) (replies : List PullReply) : List StoredChunk :=
  List.zipWith (fun c r => ⟨r.level, level, schema, c, r.chunk.newCursor, r.chunk.dns⟩) (sent cursor replies) replies

/-- A scripted server after some calls that left a part of its script. -/
def played (server : ScriptedServer) (left : List Item) (requests : List PullRequest) : ScriptedServer :=
  { server with script := left, calls := server.calls ++ requests.map .pull }

theorem pulls_played (server : ScriptedServer) (left : List Item) (requests : List PullRequest) :
    (played server left requests).pulls = server.pulls ++ requests := by
  unfold ScriptedServer.pulls played
  rw [List.filterMap_append, List.filterMap_map]
  exact congrArg _ List.filterMap_some

/-! ## One call -/

/-- What comes next in the script; behind its end there is an error. -/
def nextItem (script : List Item) : Item := script.head?.getD (.error ScriptedServer.exhausted)

theorem pull_script (handle : Handle) (r : PullRequest) (server : ScriptedServer) :
    ((Server.access : ServerAccess ScriptedServer).pull handle r).Answers server (nextItem server.script)
      (played server server.script.tail [r]) := by
  cases hscript : server.script with
  | nil => simp [Call.Answers, nextItem, Server.access, ScriptedServer.pull, ScriptedServer.record, played, hscript]
  | cons item rest =>
    cases item <;>
      simp [Call.Answers, nextItem, Server.access, ScriptedServer.pull, ScriptedServer.record, played, hscript]

/-! ## The end of a pull -/

section

variable {target : String} {cursor : Cursor} {r : PullReply}

theorem judge_next (script : List Item) :
    judge target cursor (some (nextItem script)) = judge target cursor script.head? := by
  cases script <;> rfl

theorem judge_missing (hm : r.chunk.count ≠ 0 ∧ r.chunk.chain = []) :
    judge target cursor (some (.ok r)) = .error (.contract (.missingObjects r.chunk.count)) := if_pos hm

theorem judge_back (hm : ¬ (r.chunk.count ≠ 0 ∧ r.chunk.chain = [])) (hf : ¬ cursor ≤ r.chunk.newCursor) :
    judge target cursor (some (.ok r)) = .error (.contract (.cursorMovedBack cursor r.chunk.newCursor)) := by
  rw [judge, if_neg hm, if_pos hf]

theorem judge_rejected (hm : ¬ (r.chunk.count ≠ 0 ∧ r.chunk.chain = [])) (hf : cursor ≤ r.chunk.newCursor)
    (hc : r.chunk.chain.length ≠ r.chunk.count.toNat) :
    judge target cursor (some (.ok r)) = .error (.apply (.rejected
      s!"object list holds {r.chunk.chain.length} objects, count says {r.chunk.count}")) := by
  rw [judge, if_neg hm, if_neg (fun h => h hf), if_pos hc]

theorem judge_good (hg : r.chunk.Good cursor) : judge target cursor (some (.ok r)) = .ok r := by
  obtain ⟨hm, hf, hc⟩ := Chunk.good_iff.mp hg
  rw [judge, if_neg hm, if_neg (fun h => h hf), if_neg (fun h => h hc)]

theorem judge_ok {item : Option Item} :
    judge target cursor item = .ok r ↔ item = some (.ok r) ∧ r.chunk.Good cursor := by
  constructor
  · intro h
    match item with
    | none | some (.error e) => simp [judge] at h
    | some (.ok r') =>
      by_cases hm : r'.chunk.count ≠ 0 ∧ r'.chunk.chain = []
      · simp [judge_missing hm] at h
      by_cases hf : cursor ≤ r'.chunk.newCursor
      · by_cases hc : r'.chunk.chain.length = r'.chunk.count.toNat
        · have hg := Chunk.good_iff.mpr ⟨hm, hf, hc⟩
          rw [judge_good hg, Except.ok.injEq] at h
          subst h
          exact ⟨rfl, hg⟩
        · simp [judge_rejected hm hf hc] at h
      · simp [judge_back hm hf] at h
  · rintro ⟨rfl, hg⟩
    exact judge_good hg

end

section

variable {σ τ : Type}

/-- What a call leaves behind once its answer is judged. Only a good reply is kept. -/
def judged (w : Surroundings σ τ) (schema : Bool) (r : PullRequest) (after : σ)
    (verdict : Except ReplicationError PullReply) : Surroundings σ τ :=
  ⟨after, ⟨w.store.chunks ++ verdict.toOption.toList.map fun reply =>
    Delivery.stored ⟨reply.level, reply.chunk, schema, r⟩⟩, w.schema⟩

theorem judged_error (w : Surroundings σ τ) (schema : Bool) (r : PullRequest) (after : σ) (e : ReplicationError) :
    judged w schema r after (.error e) = { w with server := after } := by
  simp [judged, Except.toOption]

variable {server : ServerAccess σ} {schema : SchemaAccess τ} {s : Session} {options : PullOptions} {r : PullRequest}
  {w : Surroundings σ τ} {after : σ} {answer : Item}

theorem pullChunk_judged (h : (server.pull s.connection.handle r).Answers w.server answer after)
    {verdict : Except ReplicationError PullReply}
    (hv : judge s.connection.target r.terms.cursor (some answer) = verdict) (log : List Event) :
    Yields (pullChunk (.apart server schema) s options r) ⟨w, log⟩ (verdict.map (·.chunk))
      (judged w options.schema r after verdict) := by
  subst hv
  match answer with
  | .error e =>
    rw [judge, judged_error]
    exact pullChunk_refused _ schema s options r w log h
  | .ok reply =>
    by_cases hm : reply.chunk.count ≠ 0 ∧ reply.chunk.chain = []
    · rw [judge_missing hm, judged_error]
      exact pullChunk_breach _ schema s options r w log h (Chunk.breach_missing hm)
    by_cases hf : r.terms.cursor ≤ reply.chunk.newCursor
    · by_cases hc : reply.chunk.chain.length = reply.chunk.count.toNat
      · have hg := Chunk.good_iff.mpr ⟨hm, hf, hc⟩
        rw [judge_good hg]
        exact pullChunk_stored _ schema s options r w log h hg
      · rw [judge_rejected hm hf hc, judged_error]
        exact pullChunk_rejected _ schema s options r w log h (Chunk.breach_none hm hf) hc
    · rw [judge_back hm hf, judged_error]
      exact pullChunk_breach _ schema s options r w log h (Chunk.breach_back hm hf)

end

section

variable {τ : Type} {schema : SchemaAccess τ} {s : Session} {options : PullOptions}

/-- What a pull leaves behind that goes through some replies and then meets an item. -/
def settled (w : Surroundings ScriptedServer τ) (schema : Bool) (r : PullRequest) (taken : List PullReply)
    (left : List Item) (verdict : Except ReplicationError PullReply) : Surroundings ScriptedServer τ :=
  ⟨played w.server left ((sent r.terms.cursor taken).map r.withCursor),
    ⟨w.store.chunks ++ kept r.level schema r.terms.cursor (taken ++ verdict.toOption.toList)⟩, w.schema⟩

theorem settled_nil (w : Surroundings ScriptedServer τ) (schema : Bool) (r : PullRequest) (left : List Item)
    (verdict : Except ReplicationError PullReply) :
    settled w schema r [] left verdict = judged w schema r (played w.server left [r]) verdict := by
  cases verdict <;> simp [settled, judged, sent, kept, PullRequest.withCursor_self, Except.toOption, Delivery.stored]

theorem settled_cons (w : Surroundings ScriptedServer τ) (schema : Bool) (r : PullRequest) (reply : PullReply)
    (taken : List PullReply) (left left' : List Item) (verdict : Except ReplicationError PullReply) :
    settled w schema r (reply :: taken) left' verdict =
      settled ⟨played w.server left [r], w.store.with ⟨reply.level, reply.chunk, schema, r⟩, w.schema⟩ schema
        (r.withCursor reply.chunk.newCursor) taken left' verdict := by
  have hr := PullRequest.withCursor_self r
  simp [settled, sent, kept, played, hr, ChunkStore.with, Delivery.stored, Function.comp_def]

variable {r : PullRequest} {stats : PullStats} {log : List Event} {calls : Nat}

theorem pullAll_decided (w : Surroundings ScriptedServer τ) (hstop : ¬ GoesOn r.terms.cursor w.server.script.head?)
    {verdict : Except ReplicationError PullReply}
    (hv : judge s.connection.target r.terms.cursor w.server.script.head? = verdict) :
    Yields (pullAll (.apart Server.access schema) s options (calls + 1) r stats) ⟨w, log⟩
      (verdict.map fun last => some (stats.add last.chunk))
      (settled w options.schema r [] w.server.script.tail verdict) := by
  have hchunk : Yields (pullChunk (.apart Server.access schema) s options r) ⟨w, log⟩ (verdict.map (·.chunk)) _ :=
    pullChunk_judged (pull_script s.connection.handle r w.server) ((judge_next _).trans hv) log
  rw [settled_nil]
  cases verdict with
  | error e => exact pullAll_error hchunk
  | ok last =>
    obtain ⟨hitem, hgood⟩ := judge_ok.mp hv
    exact pullAll_last hchunk (Bool.eq_false_iff.mpr fun hmore => hstop ⟨last, hitem, hgood, hmore⟩)

theorem pullAll_script (taken : List PullReply) (rest : List Item) {verdict : Except ReplicationError PullReply} :
    ∀ (w : Surroundings ScriptedServer τ) (log : List Event) (r : PullRequest) (stats : PullStats) (calls : Nat),
      w.server.script = taken.map .ok ++ rest → Leads r.terms.cursor taken →
      ¬ GoesOn (standing r.terms.cursor taken) rest.head? →
      judge s.connection.target (standing r.terms.cursor taken) rest.head? = verdict → taken.length < calls →
      Yields (pullAll (.apart Server.access schema) s options calls r stats) ⟨w, log⟩
        (verdict.map fun last => some ((taken ++ [last]).foldl (fun st reply => st.add reply.chunk) stats))
        (settled w options.schema r taken rest.tail verdict) := by
  induction taken with
  | nil =>
    intro w log r stats calls hscript _ hstop hv hcalls
    obtain ⟨calls, rfl⟩ : ∃ n, calls = n + 1 := ⟨calls - 1, by simp at hcalls; omega⟩
    rw [List.map_nil, List.nil_append] at hscript
    rw [← hscript] at hstop hv ⊢
    exact pullAll_decided w hstop hv
  | cons reply taken ih =>
    intro w log r stats calls hscript hlead hstop hv hcalls
    obtain ⟨calls, rfl⟩ : ∃ n, calls = n + 1 := ⟨calls - 1, by simp at hcalls; omega⟩
    obtain ⟨hgood, hmore, hlead⟩ := hlead
    have hpull := pull_script s.connection.handle r w.server
    rw [hscript] at hpull
    refine pullAll_more (pullChunk_stored _ schema s options r w log hpull hgood) hmore fun log' => ?_
    rw [settled_cons w options.schema r reply taken (taken.map .ok ++ rest)]
    have hcursor : (r.withCursor reply.chunk.newCursor).terms.cursor = reply.chunk.newCursor := by simp
    rw [standing, ← hcursor] at hstop hv
    rw [← hcursor] at hlead
    refine ih _ log' _ (stats.add reply.chunk) calls ?_ hlead hstop hv (by simpa using hcalls)
    rfl

end

/-! ## The whole script -/

theorem exists_leads (script : List Item) (cursor : Cursor) :
    ∃ taken rest, script = taken.map .ok ++ rest ∧ Leads cursor taken ∧
      ¬ GoesOn (standing cursor taken) rest.head? := by
  induction script generalizing cursor with
  | nil => exact ⟨[], [], rfl, trivial, by rintro ⟨r, hr, -⟩; simp at hr⟩
  | cons item script ih =>
    by_cases h : GoesOn cursor (some item)
    · obtain ⟨r, hr, hgood, hmore⟩ := h
      obtain rfl := Option.some.inj hr
      obtain ⟨taken, rest, hsplit, hlead, hstop⟩ := ih r.chunk.newCursor
      exact ⟨r :: taken, rest, by rw [hsplit]; rfl, ⟨hgood, hmore, hlead⟩, hstop⟩
    · exact ⟨[], item :: script, rfl, trivial, h⟩

theorem foldl_add (taken : List PullReply) (last : PullReply) (stats : PullStats) :
    (taken ++ [last]).foldl (fun st reply => st.add reply.chunk) stats =
      ⟨stats.level, stats.chunks + (taken.length + 1), stats.objects + claimed (taken ++ [last]),
        last.chunk.newCursor⟩ := by
  induction taken generalizing stats with
  | nil => simp [PullStats.add, claimed]
  | cons r taken ih =>
    rw [List.cons_append, List.foldl_cons, ih]
    simp only [PullStats.add, claimed, List.length_cons, PullStats.mk.injEq, true_and, and_true]
    omega

/-- What a pull that starts with the request `first` makes of a script: it takes the replies that lead on, and the
item after them is judged. -/
def PullPost {τ : Type} (target : String) (first : PullRequest) (schema : Bool)
    (before after : Surroundings ScriptedServer τ) (result : Except ReplicationError (Option PullStats)) : Prop :=
  ∃ taken rest verdict,
    before.server.script = taken.map .ok ++ rest ∧ Leads .zero taken ∧
    ¬ GoesOn (standing .zero taken) rest.head? ∧
    judge target (standing .zero taken) rest.head? = verdict ∧
    -- Only a good reply that announces no more ends the pull well.
    (∀ last, verdict = .ok last ↔
      rest.head? = some (.ok last) ∧ last.chunk.Good (standing .zero taken) ∧ last.chunk.more = false) ∧
    result = verdict.map (fun last =>
      some ⟨first.level, taken.length + 1, claimed (taken ++ [last]), last.chunk.newCursor⟩) ∧
    (∀ last, verdict = .ok last → claimed (taken ++ [last]) < UInt64.size) ∧
    -- There is one call for each reply taken and one for the item after them.
    (sent .zero taken).length = taken.length + 1 ∧
    after.server = played before.server rest.tail ((sent .zero taken).map first.withCursor) ∧
    after.store = ⟨before.store.chunks ++ kept first.level schema .zero (taken ++ verdict.toOption.toList)⟩

/-- **Pulls from a script.** -/
theorem replicate_scripted {τ : Type} (schema : SchemaAccess τ) (s : Session) (options : PullOptions) (dn : String)
    (source destination : Guid) (calls : Nat) (scene built : Scene (Surroundings ScriptedServer τ))
    (set : Option AttributeSet)
    (hset : wanted (Peers.apart Server.access schema).schema options scene = .ok set built)
    (hshort : scene.world.server.script.length < UInt32.size)
    (hcalls : Server.pullBound scene.world.server ≤ calls) :
    ∃ result after,
      Yields (replicate (.apart Server.access schema) s calls dn source destination options) scene result after ∧
      PullPost s.connection.target (firstRequest s dn source destination options set) options.schema scene.world
        after result := by
  obtain ⟨taken, rest, hsplit, hlead, hstop⟩ := exists_leads scene.world.server.script .zero
  have hmade : Call.Answers (wanted (Peers.apart Server.access schema).schema options) scene (.ok set) built := hset
  have hworld := wanted_world Server.access schema hmade
  have hzero : (firstRequest s dn source destination options set).terms.cursor = .zero := by
    rw [firstRequest_terms]
    rfl
  have hlen := congrArg List.length hsplit
  rw [List.length_append, List.length_map] at hlen
  have hbound : taken.length < calls := by
    have : scene.world.server.script.length + 1 ≤ calls := hcalls
    omega
  have hscript : built.world.server.script = taken.map .ok ++ rest := by
    rw [hworld]
    exact hsplit
  have hrun := fun log => @pullAll_script τ schema s options taken rest _ built.world log
    (firstRequest s dn source destination options set) (.start (firstRequest s dn source destination options set).level)
    calls hscript (by rwa [hzero]) (by rwa [hzero]) rfl hbound
  refine ⟨_, _, replicate_yields hmade hrun, taken, rest, _, hsplit, hlead, hstop, rfl, ?_, ?_, ?_, by simp [sent], ?_,
    ?_⟩
  · intro last
    rw [judge_ok]
    constructor
    · rintro ⟨hhead, hgood⟩
      exact ⟨hhead, hgood, Bool.eq_false_iff.mpr fun hm => hstop ⟨last, hhead, hgood, hm⟩⟩
    · rintro ⟨hhead, hgood, -⟩
      exact ⟨hhead, hgood⟩
  · simp only [hzero, foldl_add, PullStats.start, Nat.zero_add]
  · intro last hv
    have hhead := (judge_ok.mp hv).1
    have hrest : 0 < rest.length := List.length_pos_of_mem (List.mem_of_mem_head? hhead)
    refine claimed_lt ?_
    rw [List.length_append, List.length_singleton]
    omega
  · rw [hworld, settled, hzero]
  · rw [hworld, settled, hzero]

def goodPage (cursor : UInt64) (dns : List String) (more : Bool) : Item :=
  .ok ⟨6, .ofObjects (.ofDn "DC=example") .zero ⟨cursor, 0, 0⟩ (dns.map fun dn => ⟨.ofDn dn, 0, []⟩) more⟩

/-- A page that claims objects without a list and moves the cursor back besides. -/
def badPage : Item := .ok ⟨6, { Chunk.ofObjects (.ofDn "DC=example") .zero .zero [] true with count := 3 }⟩

/-- Two pages are taken, the third breaks two rules, and the fourth is never asked for. -/
def mixedScript : List Item :=
  [goodPage 2 ["CN=a", "CN=b"] true, goodPage 2 [] true, badPage, goodPage 9 ["CN=c"] false]

def mixedScene : Scene (Surroundings ScriptedServer Unit) :=
  ⟨⟨{ ScriptedServer.default with script := mixedScript }, .empty, ()⟩, []⟩

theorem replicate_scripted_mixed :
    wanted (Peers.apart (Server.access : ServerAccess ScriptedServer) .unasked).schema .default mixedScene =
        .ok none mixedScene ∧
      mixedScene.world.server.script.length < UInt32.size ∧ Server.pullBound mixedScene.world.server ≤ 5 ∧
      ∃ result after,
        Yields (replicate (.apart Server.access .unasked) (.ofLimit ⟨0, .fill 7⟩ 2) 5 "DC=example" .nil .nil .default)
          mixedScene result after ∧
        PullPost "dc1.example.com" (firstRequest (.ofLimit ⟨0, .fill 7⟩ 2) "DC=example" .nil .nil .default none) false
          mixedScene.world after result :=
  ⟨rfl, by decide, by decide,
    replicate_scripted .unasked (.ofLimit ⟨0, .fill 7⟩ 2) .default "DC=example" .nil .nil 5 mixedScene mixedScene none
      rfl (by decide) (by decide)⟩

end DirectoryPull.Script
