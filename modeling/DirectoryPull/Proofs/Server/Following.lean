import DirectoryPull.Proofs.Server.Paging

/-!
# Following a naming context

A client that always sends back the cursor of the last reply keeps up with a naming context that goes on growing.
What it has received is at any moment the beginning of what is stored.
-/

namespace DirectoryPull.Following

open DirectoryServer

structure Follower where
  cursor : Cursor
  received : List ReplicaObject

def Follower.start : Follower := ⟨.zero, []⟩

def Follower.receive (f : Follower) (c : Chunk) : Follower := ⟨c.newCursor, f.received ++ c.objects⟩

/-- A request with which the follower goes on. -/
structure Follower.Asks (f : Follower) (context : String) (limit : UInt32) (r : PullRequest) : Prop where
  context : r.terms.context.dn = context
  cursor : r.terms.cursor = f.cursor
  limit : r.terms.maxObjects = limit

def Quiet : Deed → Prop
  | .inject _ _ => False
  | _ => True

/-- How things go on: with other deeds on the server, which are listed, and with pulls of the follower. -/
inductive Run (context : String) (limit : UInt32) (p : DirectoryServer × Follower) :
    List Deed → DirectoryServer × Follower → Prop
  | refl : Run context limit p [] p
  | other {deeds : List Deed} {s : DirectoryServer} {f : Follower} (before : Run context limit p deeds (s, f))
      (d : Deed) (fits : d.Fits s) (quiet : Quiet d) : Run context limit p (deeds ++ [d]) (d.done s, f)
  | own {deeds : List Deed} {s t : DirectoryServer} {f : Follower} {r : PullRequest} {reply : PullReply}
      (before : Run context limit p deeds (s, f)) (asks : f.Asks context limit r)
      (answered : pull handle r s = .ok reply t) : Run context limit p deeds (t, f.receive reply.chunk)

/-- The follower has received the first objects, and its cursor stands on the last of them. -/
structure Follows (context : String) (s : DirectoryServer) (f : Follower) (taken rest : List NumberedObject) :
    Prop where
  numbered : Numbered s
  quiet : ∀ call, s.faults.get? call = none
  held : s.contexts.get? context = some (taken ++ rest)
  cursor : f.cursor.current = lastUsn taken
  received : f.received = taken.map (·.object)

/-! ## Quiet servers -/

theorem quiet_counted {s : DirectoryServer} (h : ∀ call, s.faults.get? call = none) (r : PullRequest) :
    ∀ call, (s.counted r).faults.get? call = none := by
  intro call
  by_cases hcall : call = s.pulls.length
  · rw [hcall, counted, Table.get?_erase_self]
  · rw [counted, Table.get?_erase_of_ne _ hcall, h]

theorem quiet_done {s : DirectoryServer} (h : ∀ call, s.faults.get? call = none) {d : Deed} (hd : Quiet d) :
    ∀ call, (d.done s).faults.get? call = none := by
  have hstock : ∀ {t : DirectoryServer}, t.stock = s.stock → ∀ call, t.faults.get? call = none := by
    intro t ht
    rw [(Prod.mk.inj ht).2]
    exact h
  cases d with
  | addContext context =>
    rw [Deed.done, addContext]
    split <;> exact h
  | addObjects | addController | failNextBind => exact h
  | inject => exact hd.elim
  | bind interface info => exact hstock (keeps_bindCall interface info s)
  | pull handle r =>
    by_cases hh : handle = DirectoryServer.handle
    · rw [Deed.done, hh, after_pull]
      exact quiet_counted h r
    · rw [Deed.done, Call.after, pull_stranger s r hh]
      exact h
  | sync handle r => exact hstock (keeps_sync handle r s)
  | remove handle r => exact hstock (keeps_remove handle r s)

/-! ## One move -/

section

variable {context : String} {limit : UInt32} {s t : DirectoryServer} {f : Follower} {r : PullRequest}
  {taken rest : List NumberedObject} (h : Follows context s f taken rest)
include h

theorem follows_other (d : Deed) (fits : d.Fits s) (quiet : Quiet d) : ∃ added,
    Follows context (d.done s) f taken (rest ++ added) ∧ added.map (·.object) = newObjects context d.additions := by
  obtain ⟨added, hheld, hadded⟩ := grown_done h.held d
  rw [List.append_assoc] at hheld
  exact ⟨added, ⟨numbered_done h.numbered d fits, quiet_done h.quiet quiet, hheld, h.cursor, h.received⟩, hadded⟩

variable (hasks : f.Asks context limit r)
include hasks

theorem own_answer : pull handle r s = .ok ⟨replyLevel r, page (taken ++ rest) r⟩ (s.counted r) := by
  have hheld : s.contexts.get? r.terms.context.dn = some (taken ++ rest) := by rw [hasks.context, h.held]
  exact pull_page hheld (h.quiet _) (by simp)

theorem own_cursor : r.terms.cursor.current = lastUsn taken := by rw [hasks.cursor, h.cursor]

theorem own_objects : (page (taken ++ rest) r).objects = (rest.take (pageSize r)).map (·.object) := by
  rw [page_objects, sent_append (h.numbered.ascending _ _ h.held) (own_cursor h hasks)]

theorem follows_own : Follows context (s.counted r) (f.receive (page (taken ++ rest) r))
    (taken ++ rest.take (pageSize r)) (rest.drop (pageSize r)) where
  numbered := h.numbered.of_holdings rfl
  quiet := quiet_counted h.quiet r
  held := by
    rw [List.append_assoc, List.take_append_drop]
    exact h.held
  cursor := newCursor_append (h.numbered.ascending _ _ h.held) (own_cursor h hasks)
  received := by rw [Follower.receive, own_objects h hasks, h.received, List.map_append]

end

/-! ## Move after move -/

/-- What the next pull of the follower brings, out of the objects that are stored: as many of the next ones as there
is room for. -/
def AnswersNext (context : String) (limit : UInt32) (s : DirectoryServer) (f : Follower)
    (stored : List ReplicaObject) : Prop :=
  ∀ r, f.Asks context limit r → ∃ reply, pull handle r s = .ok reply (s.counted r) ∧
    reply.chunk.objects = (stored.drop f.received.length).take (max limit.toNat 1) ∧
    (reply.chunk.more = true ↔ f.received.length + max limit.toNat 1 < stored.length) ∧
    (reply.chunk.more = false → f.received ++ reply.chunk.objects = stored)

section

variable {context : String} {limit : UInt32} {taken rest : List NumberedObject}

theorem Follows.answersNext {s : DirectoryServer} {f : Follower} (h : Follows context s f taken rest) :
    AnswersNext context limit s f ((taken ++ rest).map (·.object)) := by
  intro r hasks
  have hsize : max limit.toNat 1 = pageSize r := by rw [pageSize, hasks.limit]
  have hlen : f.received.length = (taken.map (·.object)).length := by rw [h.received]
  have hdrop : ((taken ++ rest).map (·.object)).drop f.received.length = rest.map (·.object) := by
    rw [hlen, List.map_append, List.drop_left]
  have hmore := more_append (h.numbered.ascending _ _ h.held) (own_cursor h hasks)
  refine ⟨_, own_answer h hasks, ?_, ?_, ?_⟩
  · rw [own_objects h hasks, hdrop, hsize, List.map_take]
  · rw [hmore, hlen, hsize, List.length_map, List.length_map, List.length_append]
    omega
  · intro hlast
    have hfits : rest.length ≤ pageSize r := by
      rw [← Bool.not_eq_true, hmore] at hlast
      omega
    rw [own_objects h hasks, List.take_of_length_le hfits, h.received, List.map_append]

/-- What the follower was given since, and what it lacks still, is what it lacked and what was added. -/
theorem follows_run {p q : DirectoryServer × Follower} {deeds : List Deed} (hrun : Run context limit p deeds q)
    (h : Follows context p.1 p.2 taken rest) : ∃ given lacking added,
      Follows context q.1 q.2 (taken ++ given) lacking ∧ given ++ lacking = rest ++ added ∧
      added.map (·.object) = newObjects context (additions deeds) := by
  induction hrun with
  | refl => exact ⟨[], rest, [], by rwa [List.append_nil], by rw [List.append_nil, List.nil_append], rfl⟩
  | other _ d fits quiet ih =>
    obtain ⟨given, lacking, added, hthen, hsplit, hadded⟩ := ih
    obtain ⟨more, hnow, hmore⟩ := follows_other hthen d fits quiet
    refine ⟨given, lacking ++ more, added ++ more, hnow, ?_, ?_⟩
    · rw [← List.append_assoc, hsplit, List.append_assoc]
    · rw [List.map_append, hadded, hmore, additions_snoc, newObjects_append]
  | own _ asks answered ih =>
    obtain ⟨given, lacking, added, hthen, hsplit, hadded⟩ := ih
    rw [own_answer hthen asks] at answered
    cases answered
    have hnow := follows_own hthen asks
    rw [List.append_assoc taken given (List.take _ _)] at hnow
    refine ⟨_, _, added, hnow, ?_, hadded⟩
    rw [List.append_assoc, List.take_append_drop, hsplit]

theorem follows_start {s : DirectoryServer} {objects : List NumberedObject} (hreach : Reachable s)
    (hquiet : ∀ call, s.faults.get? call = none) (hheld : s.contexts.get? context = some objects) :
    Follows context s .start [] objects :=
  ⟨hreach.numbered, hquiet, hheld, rfl, rfl⟩

/-- The objects that are stored begin with those that a follower has received, and its next pull brings what comes
next. Once it is caught up, it gets what deeds add afterwards, and nothing else. -/
def FollowPost (context : String) (limit : UInt32) (stored : List ReplicaObject) (s : DirectoryServer) (f : Follower) :
    Prop :=
  ∃ objects, s.contexts.get? context = some objects ∧ objects.map (·.object) = stored ∧
    f.received <+: stored ∧
    AnswersNext context limit s f stored ∧
    (f.received = stored → ∀ later s' f', Run context limit (s, f) later (s', f') →
      Grown context objects (additions later) s' ∧
      ∃ fresh, f'.received = f.received ++ fresh ∧ fresh <+: newObjects context (additions later) ∧
        ∀ r reply t, f'.Asks context limit r → pull handle r s' = .ok reply t → reply.chunk.more = false →
          fresh ++ reply.chunk.objects = newObjects context (additions later))

theorem Follows.received_prefix {s : DirectoryServer} {f : Follower} (h : Follows context s f taken rest) :
    f.received <+: (taken ++ rest).map (·.object) := by
  rw [h.received, List.map_append]
  exact List.prefix_append _ _

theorem Follows.caught_up {s : DirectoryServer} {f : Follower} (h : Follows context s f taken rest)
    (hall : f.received = (taken ++ rest).map (·.object)) : rest = [] := by
  rw [h.received, List.map_append, List.self_eq_append_right, List.map_eq_nil_iff] at hall
  exact hall

theorem Follows.since {s s' : DirectoryServer} {f f' : Follower} {later : List Deed} (h : Follows context s f taken [])
    (hrun : Run context limit (s, f) later (s', f')) :
    Grown context taken (additions later) s' ∧
      ∃ fresh, f'.received = f.received ++ fresh ∧ fresh <+: newObjects context (additions later) ∧
        ∀ r reply t, f'.Asks context limit r → pull handle r s' = .ok reply t → reply.chunk.more = false →
          fresh ++ reply.chunk.objects = newObjects context (additions later) := by
  obtain ⟨given, lacking, added, h', hsplit, hadded⟩ := follows_run hrun h
  rw [List.nil_append] at hsplit
  have hreceived : f'.received = f.received ++ given.map (·.object) := by
    rw [h'.received, h.received, List.map_append]
  rw [← hadded, ← hsplit]
  refine ⟨⟨given ++ lacking, by rw [h'.held, List.append_assoc], by rw [hsplit, hadded]⟩, given.map (·.object),
    hreceived, ?_, ?_⟩
  · rw [List.map_append]
    exact List.prefix_append _ _
  · intro r reply t hasks hanswered hlast
    obtain ⟨reply', hanswered', -, -, hall⟩ := h'.answersNext r hasks
    rw [hanswered'] at hanswered
    cases hanswered
    have hall := hall hlast
    rwa [hreceived, h.received, List.append_assoc, List.append_assoc, List.map_append,
      List.append_cancel_left_eq] at hall

/-- **Following.** What is stored is at any moment what there was at first and what the deeds since have added. -/
theorem follow_exact {first s : DirectoryServer} {f : Follower} {deeds : List Deed} (hreach : Reachable first)
    (hquiet : ∀ call, first.faults.get? call = none) (hregistered : first.contexts.get? context ≠ none)
    (hrun : Run context limit (first, .start) deeds (s, f)) :
    FollowPost context limit ((first.objectsOf context).map (·.object) ++ newObjects context (additions deeds)) s
      f := by
  obtain ⟨objects, hheld⟩ := Option.ne_none_iff_exists'.mp hregistered
  obtain ⟨taken, rest, added, h, hsplit, hadded⟩ := follows_run hrun (follows_start hreach hquiet hheld)
  rw [List.nil_append] at h
  rw [objectsOf_held hheld, ← hadded, ← List.map_append, ← hsplit]
  refine ⟨taken ++ rest, h.held, rfl, h.received_prefix, h.answersNext, ?_⟩
  intro hcaught later s' f' hrun'
  obtain rfl := h.caught_up hcaught
  rw [List.append_nil]
  exact h.since hrun'

end

def growingServer : DirectoryServer :=
  DirectoryServer.full.addObjects "DC=a" [.ofDn "CN=1,DC=a", .ofDn "CN=2,DC=a", .ofDn "CN=3,DC=a"]

/-- A first request for pages of two objects. -/
def pairRequest : PullRequest := .reduced { PullTerms.start (.ofDn "DC=a") .nil .nil with maxObjects := 2 }

def laterDeeds : List Deed := [.addObjects "DC=a" [.ofDn "CN=4,DC=a"], .addObjects "DC=b" [.ofDn "CN=1,DC=b"]]

/-- A pull of two objects out of three, then a fourth object, and one elsewhere, before the next pull. -/
def grownServer : DirectoryServer := laterDeeds.foldl (fun s d => d.done s) (growingServer.counted pairRequest)

def pairFollower : Follower := Follower.start.receive (page (growingServer.objectsOf "DC=a") pairRequest)

theorem run_grown : Run "DC=a" 2 (growingServer, .start) laterDeeds (grownServer, pairFollower) := by
  have hasks : Follower.start.Asks "DC=a" 2 pairRequest := ⟨rfl, rfl, rfl⟩
  have hquiet : growingServer.ahead 0 = none := rfl
  have hown : Run "DC=a" 2 (growingServer, .start) [] (growingServer.counted pairRequest, pairFollower) :=
    Run.refl.own hasks (pull_page rfl hquiet (by simp))
  exact (hown.other (.addObjects "DC=a" [.ofDn "CN=4,DC=a"]) (by decide) trivial).other
    (.addObjects "DC=b" [.ofDn "CN=1,DC=b"]) (by decide) trivial

theorem follow_exact_grown :
    Reachable growingServer ∧ (∀ call, growingServer.faults.get? call = none) ∧
      growingServer.contexts.get? "DC=a" ≠ none ∧
      Run "DC=a" 2 (growingServer, .start) laterDeeds (grownServer, pairFollower) ∧
      FollowPost "DC=a" 2
        ((growingServer.objectsOf "DC=a").map (·.object) ++ newObjects "DC=a" (additions laterDeeds)) grownServer
        pairFollower := by
  have hreach : Reachable growingServer :=
    (Reachable.fresh .offered).step (.addObjects "DC=a" [.ofDn "CN=1,DC=a", .ofDn "CN=2,DC=a", .ofDn "CN=3,DC=a"])
      (by decide)
  exact ⟨hreach, fun _ => rfl, by decide, run_grown, follow_exact hreach (fun _ => rfl) (by decide) run_grown⟩

end DirectoryPull.Following
