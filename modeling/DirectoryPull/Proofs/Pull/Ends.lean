import DirectoryPull.Proofs.Pull.Pages
import DirectoryPull.Proofs.Pull.Script

/-!
# Pulls come to an end

A pull that goes on after a call has less in front of it: the script is shorter, the cursor has passed an object, or a
fault is used up.
-/

namespace DirectoryPull

open DirectoryPull.Action Session Script

/-! ## Progress -/

section

variable {σ τ : Type} {access : ServerAccess σ} {handle : Handle} {sound : σ → Prop} {left : σ → PullRequest → Nat}

/-- Every good reply that announces more leaves less to pull. -/
def Progress (access : ServerAccess σ) (handle : Handle) (sound : σ → Prop) (left : σ → PullRequest → Nat) : Prop :=
  ∀ r a, sound a → ∃ answer b, (access.pull handle r).Answers a answer b ∧ sound b ∧
    ∀ reply, answer = .ok reply → reply.chunk.Good r.terms.cursor → reply.chunk.more = true →
      left b (r.withCursor reply.chunk.newCursor) < left a r

namespace Session

variable {schema : SchemaAccess τ} {s : Session} {options : PullOptions} {calls : Nat} {r : PullRequest}
  {stats : PullStats} {w : Surroundings σ τ}

theorem pullAll_exists_end (h : Progress access s.connection.handle sound left) (hsound : sound w.server)
    (hcalls : left w.server r < calls) :
    ∃ result after, (∀ log, Yields (pullAll (.apart access schema) s options calls r stats) ⟨w, log⟩ result after) ∧
      result ≠ .ok none := by
  induction calls generalizing r stats w with
  | zero => exact absurd hcalls (Nat.not_lt_zero _)
  | succ calls ih =>
    obtain ⟨answer, b, hanswer, hsound, hleft⟩ := h r w.server hsound
    cases hverdict : judge s.connection.target r.terms.cursor (some answer) with
    | error e => exact ⟨.error e, _, fun log => pullAll_error (pullChunk_judged hanswer hverdict log), by simp⟩
    | ok reply =>
      have hchunk : ∀ log, Yields (pullChunk (.apart access schema) s options r) ⟨w, log⟩ (.ok reply.chunk) _ :=
        pullChunk_judged hanswer hverdict
      obtain ⟨hreply, hgood⟩ := judge_ok.mp hverdict
      cases hmore : reply.chunk.more with
      | false => exact ⟨_, _, fun log => pullAll_last (hchunk log) hmore, by simp⟩
      | true =>
        have hnext := hleft reply (Option.some.inj hreply) hgood hmore
        obtain ⟨result, after, hrun, hresult⟩ := ih (w := judged w options.schema r b (.ok reply)) hsound
          (Nat.lt_of_lt_of_le hnext (Nat.le_of_lt_succ hcalls))
        exact ⟨result, after, fun log => pullAll_more (hchunk log) hmore hrun, hresult⟩

/-- With more calls than there is left to pull, every pull comes to an end. -/
theorem pullAll_ends {result : Except ReplicationError (Option PullStats)} {world : Surroundings σ τ} {log : List Event}
    (hrun : Yields (pullAll (.apart access schema) s options calls r stats) ⟨w, log⟩ result world)
    (h : Progress access s.connection.handle sound left) (hsound : sound w.server) (hcalls : left w.server r < calls) :
    result ≠ .ok none := by
  obtain ⟨ending, after, hends, hsome⟩ := pullAll_exists_end h hsound hcalls
  rwa [hrun.unique (hends log)]

end Session

end

/-! ## Scripts -/

theorem progress_scripted (handle : Handle) :
    Progress Server.access handle (fun _ => True) fun (a : ScriptedServer) _ => a.script.length := by
  refine fun r a _ => ⟨nextItem a.script, played a a.script.tail [r], pull_script handle r a, trivial, ?_⟩
  intro reply hreply _ _
  cases hscript : a.script with
  | nil =>
    rw [hscript] at hreply
    cases hreply
  | cons item rest =>
    dsimp only
    rw [hscript]
    exact Nat.lt_succ_self _

/-! ## Naming contexts -/

namespace Table

variable {κ ν : Type} [DecidableEq κ]

theorem length_erase_le (t : Table κ ν) (k : κ) : (t.erase k).entries.length ≤ t.entries.length :=
  List.length_filter_le _ _

theorem length_erase_lt (t : Table κ ν) {k : κ} {v : ν} (h : t.get? k = some v) :
    (t.erase k).entries.length < t.entries.length := by
  rw [get?, Option.map_eq_some_iff] at h
  obtain ⟨entry, hentry, -⟩ := h
  refine List.length_filter_lt_length_iff_exists.mpr ⟨entry, List.mem_of_find?_eq_some hentry, ?_⟩
  have hkey := List.find?_some hentry
  simpa using hkey

end Table

namespace DirectoryServer

/-- How many update numbers are not passed yet, and how many faults are in store. -/
def distance (server : DirectoryServer) (r : PullRequest) : Nat :=
  server.nextUsn.toNat - r.terms.cursor.current.toNat + server.faults.entries.length

variable {server : DirectoryServer} {r : PullRequest} {objects : List NumberedObject}

section

variable (hnumbered : Numbered server) (hc : server.contexts.get? r.terms.context.dn = some objects)
include hnumbered hc

theorem current_lt_of_more (hmore : (page objects r).more = true) :
    r.terms.cursor.current < (page objects r).newCursor.current ∧
      (page objects r).newCursor.current < server.nextUsn := by
  have hsent : sent objects r ≠ [] := by
    have hwaiting := (page_more objects r).mp hmore
    have hsize := pageSize_pos r
    rw [sent, ← List.length_pos_iff, List.length_take]
    omega
  have hlast := List.getLast?_eq_some_getLast hsent
  have hmem := List.mem_filter.mp (List.mem_of_mem_take (List.getLast_mem hsent))
  have hcurrent : (page objects r).newCursor.current = ((sent objects r).getLast hsent).usn := by
    simp [page_newCursor, cursorAfter, hlast]
  rw [hcurrent]
  exact ⟨of_decide_eq_true hmem.2, (hnumbered.ascending _ _ hc).passed _ hmem.1⟩

theorem distance_lt {fault : Option PullFault} (hf : server.ahead 0 = fault)
    (hgood : (PullFault.spoil (page objects r) fault).Good r.terms.cursor)
    (hmore : (PullFault.spoil (page objects r) fault).more = true) :
    distance (server.counted r) (r.withCursor (PullFault.spoil (page objects r) fault).newCursor) <
      distance server r := by
  have hfaults := Table.length_erase_le server.faults server.pulls.length
  have hpage : (page objects r).more = true →
      distance (server.counted r) (r.withCursor (page objects r).newCursor) < distance server r := by
    intro hmore
    obtain ⟨hpast, hnext⟩ := current_lt_of_more hnumbered hc hmore
    rw [UInt64.lt_iff_toNat_lt] at hpast hnext
    simp only [distance, counted, PullRequest.terms_withCursor]
    omega
  cases fault with
  | none => exact hpage hmore
  | some fault =>
    cases fault with
    | error e => exact hpage hmore
    | dropObjects => exact absurd hgood.listed (by simp [PullFault.spoil, Paged.max_one_ne_zero])
    | rewindCursor =>
      -- Only at the zero cursor this counts as no step back, and then the fault was used up at least.
      have hzero : r.terms.cursor.current = 0 := UInt64.le_antisymm hgood.forward.1 UInt64.zero_le
      have hstruck : (server.faults.erase server.pulls.length).entries.length < server.faults.entries.length :=
        Table.length_erase_lt server.faults hf
      simp only [distance, counted, PullRequest.terms_withCursor, PullFault.spoil, Cursor.zero, hzero]
      omega

end

theorem progress_directory (h : Handle) : Progress Server.access h Numbered distance := by
  intro r server hnumbered
  by_cases hh : h = handle
  · rw [hh]
    refine ⟨_, _, pull_answers server r, hnumbered.of_holdings rfl, ?_⟩
    intro reply hreply hgood hmore
    obtain ⟨objects, hc, rfl⟩ := replyTo_ok hreply
    exact distance_lt hnumbered hc rfl hgood hmore
  · exact ⟨.error _, _, pull_stranger server r hh, hnumbered.of_holdings rfl, by simp⟩

end DirectoryServer

end DirectoryPull
