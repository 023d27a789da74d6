import DirectoryPull.Proofs.Pull.Ends

/-!
# Replies without a fault

Any cursor may be sent, also one that no server ever issued. The page continues from there all the same, and the
client that sent the request takes it.
-/

namespace DirectoryPull.DirectoryServer

open DirectoryPull.Action Session

/-! ## What is on the page -/

/-- The reply to a request when so many objects are waiting behind its cursor. -/
structure Continues (waiting : List NumberedObject) (r : PullRequest) (c : Chunk) : Prop where
  objects : c.objects = (waiting.take (pageSize r)).map (·.object)
  ordered : (waiting.take (pageSize r)).Pairwise (·.usn < ·.usn)
  length : c.chain.length = min (pageSize r) waiting.length
  counted : c.count.toNat = c.chain.length
  listed : c.count ≠ 0 → c.chain ≠ []
  more : c.more = true ↔ pageSize r < waiting.length
  forward : r.terms.cursor ≤ c.newCursor
  /-- The new cursor stands on the last object of the page. -/
  last : ∀ o, (waiting.take (pageSize r)).getLast? = some o → c.newCursor.current = o.usn
  stays : c.chain = [] → c.newCursor.current = r.terms.cursor.current
  grows : c.more = true → r.terms.cursor.current < c.newCursor.current

section

variable {s : DirectoryServer} {r : PullRequest} {objects : List NumberedObject}

theorem sent_sorted {next : UInt64} (h : Ascending next objects) : (sent objects r).Pairwise (·.usn < ·.usn) :=
  (h.sorted.filter _).sublist (List.take_sublist _ _)

theorem current_of_getLast {o : NumberedObject} (h : (sent objects r).getLast? = some o) :
    (page objects r).newCursor.current = o.usn := by
  rw [page_newCursor, cursorAfter, h]
  rfl

theorem current_of_empty (h : (page objects r).chain = []) :
    (page objects r).newCursor.current = r.terms.cursor.current := by
  have hsent : sent objects r = [] := by
    rw [← List.length_eq_zero_iff, ← page_length, h, List.length_nil]
  rw [page_newCursor, cursorAfter, hsent]
  rfl

theorem page_continues (hnumbered : Numbered s) (hc : s.contexts.get? r.terms.context.dn = some objects) :
    Continues (pending objects r.terms.cursor) r (page objects r) where
  objects := page_objects objects r
  ordered := sent_sorted (hnumbered.ascending _ _ hc)
  length := by rw [page_length, sent, List.length_take]
  counted := by rw [page_count, page_length]
  listed h := (page_good objects r).listed.resolve_left h
  more := page_more objects r
  forward := le_cursorAfter objects r _
  last _ := current_of_getLast
  stays := current_of_empty
  grows h := (current_lt_of_more hnumbered hc h).1

/-! ## How the client takes it -/

/-- Every session on the server pulls the chunk with the request, and its store keeps it. -/
def Welcome (s : DirectoryServer) (r : PullRequest) (reply : PullReply) : Prop :=
  ∀ {τ : Type} (schema : SchemaAccess τ) (session : Session) (options : PullOptions) (store : ChunkStore) (x : τ)
    (log : List Event), session.connection.handle = handle →
    Yields (pullChunk (.apart Server.access schema) session options r) ⟨⟨s, store, x⟩, log⟩ (.ok reply.chunk)
      ⟨s.counted r, store.with ⟨reply.level, reply.chunk, options.schema, r⟩, x⟩

theorem welcome_of_good {reply : PullReply} (hpull : pull handle r s = .ok reply (s.counted r))
    (hgood : reply.chunk.Good r.terms.cursor) : Welcome s r reply := by
  intro τ schema session options store x log hbound
  have hcall : (Server.access : ServerAccess DirectoryServer).pull session.connection.handle r s =
      .ok reply (s.counted r) := by
    rw [hbound]
    exact hpull
  exact pullChunk_stored Server.access schema session options r ⟨s, store, x⟩ log hcall hgood

/-- **Valid replies.** -/
theorem pull_valid (hreach : Reachable s) (hregistered : s.contexts.get? r.terms.context.dn = some objects)
    (hquiet : s.ahead 0 = none) :
    ∃ reply, pull handle r s = .ok reply (s.counted r) ∧
      Continues (objects.filter fun o => r.terms.cursor.current < o.usn) r reply.chunk ∧ Welcome s r reply := by
  have hpull := pull_page hregistered hquiet (by simp)
  exact ⟨_, hpull, page_continues hreach.numbered hregistered, welcome_of_good hpull (page_good objects r)⟩

end

/-- A cursor between the update numbers of two contexts, which no reply has ever carried, and no room for objects. -/
def strayRequest : PullRequest :=
  .full { PullTerms.start (.ofDn "DC=a") .nil .nil with cursor := ⟨2, 7, 9⟩, maxObjects := 0 } .none

theorem pull_valid_stray :
    Paged.turnsServer.contexts.get? "DC=a" =
      some [⟨1, newObject (.ofDn "CN=1,DC=a")⟩, ⟨4, newObject (.ofDn "CN=2,DC=a")⟩] ∧
      Paged.turnsServer.ahead 0 = none ∧
      ∃ reply, pull handle strayRequest Paged.turnsServer = .ok reply (Paged.turnsServer.counted strayRequest) ∧
        Continues [⟨4, newObject (.ofDn "CN=2,DC=a")⟩] strayRequest reply.chunk ∧
        Welcome Paged.turnsServer strayRequest reply :=
  ⟨rfl, rfl, @pull_valid _ strayRequest _ Paged.reachable_turnsServer rfl rfl⟩

end DirectoryPull.DirectoryServer
