import DirectoryPull.Proofs.Client.Tasks
import DirectoryPull.Proofs.Pull.Chain
import DirectoryPull.Proofs.Pull.Pages
import Mathlib.Data.Finset.Card

/-!
# How many calls a pull takes

Every page takes a call. A cursor that is set back on the first page takes one call more, but that fault is used up
then. No store and no schema can keep a pull going any longer.
-/

namespace DirectoryPull

open DirectoryPull.Action Session

/-! ## Calls to spare -/

namespace Session

section

variable {W : Type} {peers : Peers W} {s : Session} {options : PullOptions} {calls more : Nat} {scene after : Scene W}
  {result : Except ReplicationError (Option PullStats)} (hle : calls ≤ more) (hend : result ≠ .ok none)
include hle hend

/-- A pull that has come to its end does not mind being allowed more calls. -/
theorem pullAll_spare {r : PullRequest} {stats : PullStats}
    (h : Call.Answers (pullAll peers s options calls r stats) scene result after) :
    Call.Answers (pullAll peers s options more r stats) scene result after := by
  induction calls generalizing more r stats scene with
  | zero =>
    have hnone : Call.Answers (pullAll peers s options 0 r stats) scene (.ok none) scene := Call.answers_pure _ _
    exact absurd (h.unique hnone).1 hend
  | succ calls ih =>
    obtain ⟨more, rfl⟩ : ∃ n, more = n + 1 := ⟨more - 1, by omega⟩
    unfold pullAll at h ⊢
    obtain ⟨answer, between, hchunk⟩ := Call.exists_answers (pullChunk peers s options r) scene
    cases answer with
    | error e =>
      obtain ⟨rfl, rfl⟩ := h.unique hchunk.bind_error
      exact hchunk.bind_error
    | ok chunk =>
      have hrest := hchunk.of_bind h
      apply hchunk.bind
      split at hrest
      · next hmore =>
        rw [if_pos hmore]
        exact ih (by omega) hrest
      · next hmore =>
        rw [if_neg hmore]
        exact hrest

end

end Session

/-! ## What is in front of a pull -/

namespace DirectoryServer

/-- The calls yet to come whose cursor is going to be set back. -/
def rewindCalls (server : DirectoryServer) : Finset Nat :=
  (server.faults.entries.map Prod.fst).toFinset.filter fun call =>
    server.pulls.length ≤ call ∧ server.faults.get? call = some .rewindCursor

/-- The pages from the cursor of a request on, and the rewinds in store. -/
def callsLeft (server : DirectoryServer) (r : PullRequest) : Nat :=
  pageCount (pending (server.objectsOf r.terms.context.dn) r.terms.cursor) (pageSize r) + (rewindCalls server).card

variable {server : DirectoryServer} {r : PullRequest} {objects : List NumberedObject}

theorem mem_rewindCalls {call : Nat} : call ∈ rewindCalls server ↔
    server.pulls.length ≤ call ∧ server.faults.get? call = some .rewindCursor := by
  unfold rewindCalls
  rw [Finset.mem_filter, List.mem_toFinset, and_iff_right_iff_imp]
  rintro ⟨-, hfault⟩
  exact Table.mem_keys hfault

theorem rewindCalls_counted (server : DirectoryServer) (r : PullRequest) :
    rewindCalls (server.counted r) = (rewindCalls server).erase server.pulls.length := by
  have hpulls : (server.counted r).pulls.length = server.pulls.length + 1 := by simp [counted]
  ext call
  rw [Finset.mem_erase, mem_rewindCalls, mem_rewindCalls, hpulls]
  by_cases hcall : call = server.pulls.length
  · simp [hcall]
  · have hfault : (server.counted r).faults.get? call = server.faults.get? call := Table.get?_erase_of_ne _ hcall
    rw [hfault, ← and_assoc]
    apply and_congr_left
    intro _
    omega

theorem card_rewindCalls_le (server : DirectoryServer) (r : PullRequest) :
    (rewindCalls (server.counted r)).card ≤ (rewindCalls server).card := by
  rw [rewindCalls_counted]
  exact Finset.card_erase_le

theorem card_rewindCalls_lt (r : PullRequest) (h : server.ahead 0 = some .rewindCursor) :
    (rewindCalls (server.counted r)).card < (rewindCalls server).card := by
  rw [rewindCalls_counted]
  apply Finset.card_erase_lt_of_mem
  exact mem_rewindCalls.mpr ⟨Nat.le_refl _, h⟩

/-! ## Page after page -/

theorem pending_filter {c d : Cursor} (h : c.current ≤ d.current) (objects : List NumberedObject) :
    pending (pending objects c) d = pending objects d := by
  unfold pending
  rw [List.filter_filter]
  apply List.filter_congr
  intro o _
  rw [Bool.and_eq_left_iff_imp, decide_eq_true_eq, decide_eq_true_eq]
  exact UInt64.lt_of_le_of_lt h

theorem pending_page {next : UInt64} (h : Ascending next objects) (hmore : (page objects r).more = true) :
    pending objects (page objects r).newCursor = (pending objects r.terms.cursor).drop (pageSize r) := by
  have hwaiting := (page_more objects r).mp hmore
  have hsize := pageSize_pos r
  have hsent : sent objects r ≠ [] := by
    rw [sent, ← List.length_pos_iff, List.length_take]
    omega
  have hsplit : sent objects r ++ (pending objects r.terms.cursor).drop (pageSize r) = pending objects r.terms.cursor :=
    List.take_append_drop _ _
  have hcurrent : (page objects r).newCursor.current = lastUsn (sent objects r) := by
    simp [page_newCursor, cursorAfter, lastUsn, List.getLast?_eq_some_getLast hsent]
  have hpending : Ascending next (pending objects r.terms.cursor) := by
    refine ⟨h.sorted.filter _, fun o ho => ?_, fun o ho => ?_⟩
    · exact h.positive o (List.mem_filter.mp ho).1
    · exact h.passed o (List.mem_filter.mp ho).1
  rw [← hsplit] at hpending
  calc
    pending objects (page objects r).newCursor
      = pending (pending objects r.terms.cursor) (page objects r).newCursor :=
        (pending_filter (page_good objects r).forward.1 objects).symm
    _ = pending (sent objects r ++ (pending objects r.terms.cursor).drop (pageSize r)) (page objects r).newCursor := by
        rw [hsplit]
    _ = (pending objects r.terms.cursor).drop (pageSize r) := pending_append hpending hcurrent

theorem pageCount_drop {size : Nat} (hsize : 0 < size) (hmore : size < objects.length) :
    pageCount (objects.drop size) size + 1 = pageCount objects size := by
  have hdiv : (objects.length + size - 1) / size = (objects.length - size + size - 1) / size + 1 := by
    rw [← Nat.add_div_right _ hsize]
    congr 1
    omega
  have hpos : 1 ≤ (objects.length - size + size - 1) / size := by
    rw [Nat.le_div_iff_mul_le hsize]
    omega
  unfold pageCount
  rw [List.length_drop, hdiv]
  omega

theorem callsLeft_lt (hnumbered : Numbered server) (hc : server.contexts.get? r.terms.context.dn = some objects)
    {fault : Option PullFault} (hf : server.ahead 0 = fault)
    (hbreach : (PullFault.spoil (page objects r) fault).breach? r.terms.cursor = none)
    (hmore : (PullFault.spoil (page objects r) fault).more = true) :
    callsLeft (server.counted r) (r.withCursor (PullFault.spoil (page objects r) fault).newCursor) <
      callsLeft server r := by
  have hobjects : server.objectsOf r.terms.context.dn = objects := by simp [objectsOf, hc]
  have hcounted : (server.counted r).objectsOf r.terms.context.dn = objects := hobjects
  have hpage : (page objects r).more = true →
      callsLeft (server.counted r) (r.withCursor (page objects r).newCursor) < callsLeft server r := by
    intro hmore
    have hrewinds := card_rewindCalls_le server r
    have hpages := pageCount_drop (pageSize_pos r) ((page_more objects r).mp hmore)
    rw [← pending_page (hnumbered.ascending _ _ hc) hmore] at hpages
    simp only [callsLeft, PullRequest.terms_withCursor, Paged.pageSize_withCursor, hobjects, hcounted]
    omega
  rcases fault with _ | e | _ | _
  case none => exact hpage hmore
  case some.error => exact hpage hmore
  case some.dropObjects =>
    rw [Chunk.breach_missing ⟨Paged.max_one_ne_zero _, rfl⟩] at hbreach
    contradiction
  case some.rewindCursor =>
    -- From the zero cursor the same objects are pending, and one rewind less is in store.
    have hzero : r.terms.cursor.current = 0 := UInt64.le_antisymm (Chunk.forward_of_breach hbreach).1 UInt64.zero_le
    have hrewinds := card_rewindCalls_lt r hf
    have hpending : pending objects .zero = pending objects r.terms.cursor := by
      unfold pending
      rw [hzero]
      rfl
    simp only [callsLeft, PullRequest.terms_withCursor, Paged.pageSize_withCursor, PullFault.spoil, hobjects, hcounted,
      hpending]
    omega

/-- Each call is one more that the server has received, and one less in front of the pull that goes on. -/
theorem pull_advances (h : Handle) (r : PullRequest) (hnumbered : Numbered server) :
    ∃ answer after, (pull h r).Answers server answer after ∧ Numbered after ∧ after.pulls = server.pulls ++ [r] ∧
      ∀ reply, answer = .ok reply → reply.chunk.breach? r.terms.cursor = none → reply.chunk.more = true →
        callsLeft after (r.withCursor reply.chunk.newCursor) < callsLeft server r := by
  by_cases hh : h = handle
  · subst hh
    refine ⟨_, _, pull_answers server r, hnumbered.of_holdings rfl, rfl, ?_⟩
    intro reply hreply hbreach hmore
    obtain ⟨objects, hc, rfl⟩ := replyTo_ok hreply
    exact callsLeft_lt hnumbered hc rfl hbreach hmore
  · exact ⟨.error _, _, pull_stranger server r hh, hnumbered.of_holdings rfl, rfl, by simp⟩

section

variable {τ : Type} (schema : SchemaAccess τ) (store : StoreAccess τ) (s : Session) (options : PullOptions)

/-- A directory server, with any schema and any store. -/
abbrev clients : Peers (Shared DirectoryServer τ) := Shared.peers Server.access schema store

theorem ask_pull {h : Handle} {w : Shared DirectoryServer τ} {answer : Except TransportError PullReply}
    (hpull : (pull h r).Answers w.server answer server) (target : String) (log : List Event) :
    Call.Answers (ask ((clients schema store).server.pull h r) (ReplicationError.connection target)) ⟨w, log⟩
      (answer.mapError (.connection target)) ⟨⟨server, w.clients⟩, log⟩ := by
  have hcall : ((clients schema store).server.pull h r).Answers w answer ⟨server, w.clients⟩ := hpull.on
  exact answers_ask hcall _

theorem ask_store {d : Delivery} {before kept : τ} {answer : Except ApplyError Unit}
    (hstore : (store d).Answers before answer kept) (server : DirectoryServer) (log : List Event) :
    Call.Answers (ask ((clients schema store).store d) ReplicationError.apply) ⟨⟨server, before⟩, log⟩
      (answer.mapError .apply) ⟨⟨server, kept⟩, log⟩ := by
  have hcall : ((clients schema store).store d).Answers ⟨server, before⟩ answer ⟨server, kept⟩ := hstore.on
  exact answers_ask hcall _

theorem pullChunk_advances (r : PullRequest) {w : Shared DirectoryServer τ} (hnumbered : Numbered w.server)
    (log : List Event) :
    ∃ answer after, Call.Answers (pullChunk (clients schema store) s options r) ⟨w, log⟩ answer after ∧
      Numbered after.world.server ∧ after.world.server.pulls = w.server.pulls ++ [r] ∧
      ∀ chunk, answer = .ok chunk → chunk.more = true →
        callsLeft after.world.server (r.withCursor chunk.newCursor) < callsLeft w.server r := by
  obtain ⟨answer, server, hpull, hafter, hpulls, hleft⟩ := pull_advances s.connection.handle r hnumbered
  have hasked := ask_pull schema store hpull s.connection.target log
  unfold pullChunk
  cases answer with
  | error e => exact ⟨_, _, hasked.bind_error, hafter, hpulls, by simp⟩
  | ok reply =>
    cases hbreach : reply.chunk.breach? r.terms.cursor with
    | some breach =>
      refine ⟨.error (.contract breach), ⟨⟨server, w.clients⟩, log⟩, hasked.bind ?_, hafter, hpulls, by simp⟩
      simp only [hbreach]
      rfl
    | none =>
      -- Whether the store fails or not, the server stays as the call left it.
      obtain ⟨stored, kept, hstore⟩ :=
        Call.exists_answers (store ⟨reply.level, reply.chunk, options.schema, r⟩) w.clients
      have hput := ask_store schema store hstore server log
      cases stored with
      | error e =>
        refine ⟨.error (.apply e), ⟨⟨server, kept⟩, log⟩, hasked.bind ?_, hafter, hpulls, by simp⟩
        simp only [hbreach]
        exact hput.bind_error
      | ok =>
        let event : Event :=
          .chunkApplied r.terms.context.dn reply.level reply.chunk.count reply.chunk.more reply.chunk.newCursor
        refine ⟨.ok reply.chunk, ⟨⟨server, kept⟩, log ++ [event]⟩, hasked.bind ?_, hafter, hpulls, ?_⟩
        · simp only [hbreach]
          exact hput.bind ((answers_note _ _).bind (Call.answers_pure _ _))
        · rintro chunk hchunk hmore
          obtain rfl := Except.ok.inj hchunk
          exact hleft reply rfl hbreach hmore

theorem pullAll_within {calls : Nat} {r : PullRequest} {stats : PullStats} {w : Shared DirectoryServer τ}
    (hnumbered : Numbered w.server) (hcalls : callsLeft w.server r ≤ calls) (log : List Event) :
    ∃ result after made, Call.Answers (pullAll (clients schema store) s options calls r stats) ⟨w, log⟩ result after ∧
      result ≠ .ok none ∧ after.world.server.pulls = w.server.pulls ++ made ∧ made.length ≤ callsLeft w.server r := by
  have hpos : 1 ≤ callsLeft w.server r := Nat.le_add_right_of_le (pageCount_pos _ _)
  induction calls generalizing r stats w log with
  | zero => omega
  | succ calls ih =>
    obtain ⟨answer, between, hchunk, hbetween, hpulls, hleft⟩ :=
      pullChunk_advances schema store s options r hnumbered log
    unfold pullAll
    cases answer with
    | error e => exact ⟨.error e, between, [r], hchunk.bind_error, by simp, hpulls, hpos⟩
    | ok chunk =>
      cases hmore : chunk.more with
      | false =>
        refine ⟨.ok (some (stats.add chunk)), between, [r], hchunk.bind ?_, by simp, hpulls, hpos⟩
        simp only [hmore, Bool.false_eq_true, if_false]
        exact Call.answers_pure _ _
      | true =>
        have hless := hleft chunk rfl hmore
        have hspare : callsLeft between.world.server (r.withCursor chunk.newCursor) ≤ calls := by omega
        obtain ⟨result, after, made, hrest, hend, hmade, hlength⟩ := ih hbetween hspare between.log
          (Nat.le_add_right_of_le (pageCount_pos _ _))
        refine ⟨result, after, r :: made, hchunk.bind ?_, hend, ?_, ?_⟩
        · simp only [hmore, if_true]
          exact hrest
        · rw [hmade, hpulls, List.append_assoc, List.singleton_append]
        · rw [List.length_cons]
          omega

/-- The pages of a naming context, and the rewinds in store for calls yet to come. -/
def callBound (server : DirectoryServer) (context : String) (maxObjects : UInt32) : Nat :=
  pageCount (server.objectsOf context) (max maxObjects.toNat 1) + (rewindCalls server).card

theorem callsLeft_firstRequest (hnumbered : Numbered server) (dn : String) (source destination : Guid)
    (set : Option AttributeSet) :
    callsLeft server (firstRequest s dn source destination options set) =
      callBound server dn s.config.maxObjects := by
  have hpending : pending (server.objectsOf dn) .zero = server.objectsOf dn := by
    apply List.filter_eq_self.mpr
    intro o ho
    exact decide_eq_true ((hnumbered.objectsOf dn).positive o ho)
  unfold callsLeft callBound pageSize
  rw [firstRequest_terms]
  exact congrArg (fun objects => pageCount objects _ + _) hpending

/-- **Termination.** Whatever is stored, arranged and chosen, a pull comes to its end, and the server receives no more
calls than it has pages to send and rewinds in store. -/
theorem replicate_terminates (dn : String) (source destination : Guid) (scene : Scene (Shared DirectoryServer τ))
    (hreach : Reachable scene.world.server) :
    ∃ result after made, result ≠ .ok none ∧ after.world.server.pulls = scene.world.server.pulls ++ made ∧
      made.length ≤ callBound scene.world.server dn s.config.maxObjects ∧
      ∀ calls, callBound scene.world.server dn s.config.maxObjects ≤ calls →
        Call.Answers (replicate (clients schema store) s calls dn source destination options) scene result after := by
  have hschema : (clients schema store).schema.Keeps fun w => w.server := by
    apply SchemaAccess.keeps_on
    intro _ _
    rfl
  obtain ⟨answer, built, hset⟩ := Call.exists_answers (wanted (clients schema store).schema options) scene
  have hserver : built.world.server = scene.world.server := (keeps_wanted hschema options).of_answers hset
  cases answer with
  | error e =>
    refine ⟨.error e, built, [], by simp, by rw [hserver, List.append_nil], Nat.zero_le _, fun calls _ => ?_⟩
    unfold replicate
    exact hset.bind_error
  | ok set =>
    have hnumbered : Numbered built.world.server := hserver ▸ hreach.numbered
    have hbound := callsLeft_firstRequest s options hnumbered dn source destination set
    rw [hserver] at hbound
    obtain ⟨result, after, made, hrun, hend, hmade, hlength⟩ := pullAll_within schema store s options hnumbered
      (Nat.le_refl _) _
    rw [hserver] at hmade hlength
    rw [hserver] at hrun
    refine ⟨result, concluded dn result after, made, hend, ?_, ?_, fun calls hcalls => ?_⟩
    · rw [concluded_world, hmade]
    · rwa [hbound] at hlength
    · apply replicate_answers hset rfl
      apply pullAll_spare _ hend hrun
      rwa [hbound]

end

/-- Three objects and three rewinds, of which the first is in store for a call that is over. -/
def secondTryServer : DirectoryServer :=
  ((((pull handle (.reduced (.start (.ofDn "DC=a") .nil .nil))).after (full.populate "DC=a" 3)).inject 0
    .rewindCursor).inject 1 .rewindCursor).inject 2 .rewindCursor

theorem reachable_secondTryServer : Reachable secondTryServer := by
  have hfilled : Reachable (full.populate "DC=a" 3) := (Reachable.fresh _).populate "DC=a" (by decide)
  have hpulled := hfilled.step (.pull handle (.reduced (.start (.ofDn "DC=a") .nil .nil))) trivial
  exact ((hpulled.step (.inject 0 .rewindCursor) trivial).step (.inject 1 .rewindCursor) trivial).step
    (.inject 2 .rewindCursor) trivial

theorem replicate_terminates_second_try :
    Reachable secondTryServer ∧ callBound secondTryServer "DC=a" 1 = 5 ∧
      ∃ result after made, result ≠ .ok none ∧ after.world.server.pulls = secondTryServer.pulls ++ made ∧
        made.length ≤ callBound secondTryServer "DC=a" 1 ∧
        ∀ calls, callBound secondTryServer "DC=a" 1 ≤ calls →
          Call.Answers
            (replicate (clients .unasked fun _ => pure ()) (.ofLimit handle 1) calls "DC=a" .nil .nil .default)
            ⟨⟨secondTryServer, ()⟩, []⟩ result after :=
  ⟨reachable_secondTryServer, by decide,
    replicate_terminates .unasked (fun _ => pure ()) (.ofLimit handle 1) .default "DC=a" .nil .nil
      ⟨⟨secondTryServer, ()⟩, []⟩ reachable_secondTryServer⟩

end DirectoryServer

end DirectoryPull
