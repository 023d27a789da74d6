import DirectoryPull.Proofs.Server.Paging

/-!
# Servers that look alike

A client looks at the names of the objects that it gets, and not at their identifiers. So servers to which the same has
been done give it the same answers, whatever identifiers each of them has drawn.
-/

namespace DirectoryPull

/-! ## Answers that look alike -/

/-- The chunks are the same to a client. -/
structure Chunk.Resembles (c c' : Chunk) : Prop where
  newCursor : c.newCursor = c'.newCursor
  count : c.count = c'.count
  more : c.more = c'.more
  dns : c.dns = c'.dns

theorem Chunk.resembles_self (c : Chunk) : c.Resembles c := ⟨rfl, rfl, rfl, rfl⟩

theorem Chunk.Resembles.length {c c' : Chunk} (h : c.Resembles c') : c.chain.length = c'.chain.length := by
  rw [← dns_length, h.dns, dns_length]

/-- The same error, or replies that are the same to a client but for their levels. -/
inductive Mirrors {ε : Type} (level : UInt32 → UInt32) : Except ε PullReply → Except ε PullReply → Prop
  | error (e : ε) : Mirrors level (.error e) (.error e)
  | ok {reply reply' : PullReply} (hlevel : reply'.level = level reply.level)
      (hchunk : reply.chunk.Resembles reply'.chunk) : Mirrors level (.ok reply) (.ok reply')

theorem mirrors_self {ε : Type} (answer : Except ε PullReply) : Mirrors id answer answer := by
  cases answer with
  | error e => exact .error e
  | ok reply => exact .ok rfl reply.chunk.resembles_self

/-! ## Pages that look alike -/

def NumberedObject.outline (o : NumberedObject) : UInt64 × String := (o.usn, o.object.name.dn)

namespace DirectoryServer

theorem outline_pending (objects : List NumberedObject) (c : Cursor) :
    (pending objects c).map (·.outline) = (objects.map (·.outline)).filter fun o => c.current < o.1 := by
  rw [List.filter_map, pending]
  rfl

section

variable {objects objects' : List NumberedObject} (h : objects.map (·.outline) = objects'.map (·.outline))
include h

theorem length_of_outlines : objects.length = objects'.length := by
  rw [← List.length_map NumberedObject.outline, h, List.length_map]

theorem names_of_outlines : names objects = names objects' := by
  have hsnd : ∀ os : List NumberedObject, names os = (os.map (·.outline)).map Prod.snd := by
    intro os
    rw [List.map_map]
    rfl
  rw [hsnd, h, hsnd]

theorem cursorAfter_of_outlines (c : Cursor) (more : Bool) :
    cursorAfter c objects more = cursorAfter c objects' more := by
  have hlast : ∀ os : List NumberedObject, os.getLast?.map (·.usn) = (os.map (·.outline)).getLast?.map Prod.fst := by
    intro os
    rw [List.getLast?_map, Option.map_map]
    rfl
  rw [cursorAfter, hlast, h, ← hlast, cursorAfter]

theorem page_resembles (r : PullRequest) : (page objects r).Resembles (page objects' r) := by
  have hpending : (pending objects r.terms.cursor).map (·.outline) =
      (pending objects' r.terms.cursor).map (·.outline) := by
    rw [outline_pending, h, outline_pending]
  have hsent : (sent objects r).map (·.outline) = (sent objects' r).map (·.outline) := by
    rw [sent, List.map_take, hpending, ← List.map_take, sent]
  have hmore : (page objects r).more = (page objects' r).more := by
    rw [Bool.eq_iff_iff, page_more, page_more, length_of_outlines hpending]
  constructor
  case newCursor => rw [page_newCursor, hmore, cursorAfter_of_outlines hsent, page_newCursor]
  case count => rw [page_countOf, length_of_outlines hsent, page_countOf]
  case more => exact hmore
  case dns => rw [page_dns, names_of_outlines hsent, page_dns]

end

theorem spoil_resembles {c c' : Chunk} (h : c.Resembles c') (fault : Option PullFault) :
    (PullFault.spoil c fault).Resembles (PullFault.spoil c' fault) := by
  rcases fault with _ | _ | _ | _
  case some.dropObjects => exact ⟨h.newCursor, congrArg (max · 1) h.count, h.more, rfl⟩
  case some.rewindCursor => exact ⟨rfl, h.count, h.more, h.dns⟩
  all_goals exact h

/-! ## Servers that look alike -/

def outline (s : DirectoryServer) (context : String) : Option (List (UInt64 × String)) :=
  (s.contexts.get? context).map fun objects => objects.map (·.outline)

/-- Two servers with the same objects, as far as there is to see, and the same faults, that have answered as many
pulls. -/
structure Alike (a b : DirectoryServer) : Prop where
  outline : a.outline = b.outline
  faults : a.faults = b.faults
  calls : a.pulls.length = b.pulls.length

section

variable {a b : DirectoryServer} (h : Alike a b)
include h

theorem Alike.ahead (i : Nat) : a.ahead i = b.ahead i := by
  rw [DirectoryServer.ahead, DirectoryServer.ahead, h.faults, h.calls]

theorem Alike.counted (r r' : PullRequest) : Alike (a.counted r) (b.counted r') where
  outline := h.outline
  faults := by rw [DirectoryServer.counted, DirectoryServer.counted, h.faults, h.calls]
  calls := by simp [DirectoryServer.counted, h.calls]

theorem replyTo_reduce (r : PullRequest) : Mirrors (fun _ => 1) (replyTo a r) (replyTo b r.reduce) := by
  have hterms : r.reduce.terms = r.terms := rfl
  have hoffered := congrFun h.outline r.terms.context.dn
  unfold replyTo
  rw [← h.ahead, hterms]
  unfold DirectoryServer.outline at hoffered
  cases ha : a.contexts.get? r.terms.context.dn with
  | none =>
    rw [ha, Option.map_none, eq_comm, Option.map_eq_none_iff] at hoffered
    rw [hoffered]
    rcases a.ahead 0 with _ | _ | _ | _ <;> exact .error _
  | some objects =>
    rw [ha, Option.map_some, eq_comm, Option.map_eq_some_iff] at hoffered
    obtain ⟨objects', hb, hsame⟩ := hoffered
    have hpage : (page objects r).Resembles (page objects' r.reduce) := page_resembles hsame.symm r
    rw [hb]
    rcases a.ahead 0 with _ | _ | _ | _
    case none => exact .ok rfl (spoil_resembles hpage none)
    case some.error => exact .error _
    case some.dropObjects => exact .ok rfl (spoil_resembles hpage (some .dropObjects))
    case some.rewindCursor => exact .ok rfl (spoil_resembles hpage (some .rewindCursor))

end

/-! ## Servers that were built alike -/

/-- The deed, without the identifiers of what it stores. -/
def Deed.unidentified : Deed → Deed
  | addObjects context names => addObjects context (names.map fun name => .ofDn name.dn)
  | d => d

theorem outline_addContext (s : DirectoryServer) (context other : String) : (s.addContext context).outline other =
    if other = context then some ((s.outline other).getD []) else s.outline other := by
  rw [outline, get?_addContext, objectsOf, outline]
  split
  · cases s.contexts.get? other <;> rfl
  · rfl

theorem outline_numbered (first : UInt64) (names : List ObjectName) :
    (numbered first names).map (·.outline) = (names.map (·.dn)).mapIdx fun i dn => (first + UInt64.ofNat i, dn) :=
  List.ext_getElem (by simp [numbered]) (by simp [numbered, NumberedObject.outline, newObject])

theorem dns_unidentified (names : List ObjectName) :
    (names.map fun name => ObjectName.ofDn name.dn).map (·.dn) = names.map (·.dn) := List.map_map

theorem outline_addObjects (s : DirectoryServer) (context other : String) (names : List ObjectName) :
    (s.addObjects context names).outline other =
      if other = context then
        some ((s.outline other).getD [] ++
          (names.map (·.dn)).mapIdx fun i dn => (s.nextUsn + UInt64.ofNat i, dn))
      else s.outline other := by
  rw [outline, get?_addObjects, objectsOf, outline, ← outline_numbered]
  split
  · cases s.contexts.get? other <;> simp
  · rfl

/-- What there is to see of a server, apart from what it says when it is bound. -/
def record (s : DirectoryServer) :
    (String → Option (List (UInt64 × String))) × UInt64 × Table Nat PullFault × List PullRequest :=
  (s.outline, s.nextUsn, s.faults, s.pulls)

theorem record_eq_iff {a b : DirectoryServer} : a.record = b.record ↔
    a.outline = b.outline ∧ a.nextUsn = b.nextUsn ∧ a.faults = b.faults ∧ a.pulls = b.pulls := by
  simp only [record, Prod.mk.injEq]

theorem record_done {a b : DirectoryServer} (h : a.record = b.record) (d : Deed) :
    (d.done a).record = (d.unidentified.done b).record := by
  have hkeep : ∀ {α : Type} {call : Call DirectoryServer TransportError α}, call.Keeps record →
      (call.after a).record = (call.after b).record := fun hkeeps => (hkeeps a).trans (h.trans (hkeeps b).symm)
  obtain ⟨houtline, hnext, hfaults, hpulls⟩ := record_eq_iff.mp h
  cases d with
  | addContext context =>
    have hrest : ∀ s : DirectoryServer, (s.addContext context).faults = s.faults ∧
        (s.addContext context).pulls = s.pulls := by
      intro s
      unfold addContext
      split <;> exact ⟨rfl, rfl⟩
    refine record_eq_iff.mpr ⟨funext fun other => ?_, ?_, ?_, ?_⟩
    · simp only [Deed.done, Deed.unidentified, outline_addContext, houtline]
    · simp only [Deed.done, Deed.unidentified, nextUsn_addContext, hnext]
    · exact (hrest a).1.trans (hfaults.trans (hrest b).1.symm)
    · exact (hrest a).2.trans (hpulls.trans (hrest b).2.symm)
  | addObjects context names =>
    refine record_eq_iff.mpr ⟨funext fun other => ?_, ?_, hfaults, hpulls⟩
    · simp only [Deed.done, Deed.unidentified, outline_addObjects, dns_unidentified, houtline, hnext]
    · simp [Deed.done, Deed.unidentified, addObjects, hnext]
  | inject call fault => exact record_eq_iff.mpr ⟨houtline, hnext, congrArg (·.insert call fault) hfaults, hpulls⟩
  | addController | failNextBind => exact h
  | bind interface info => exact hkeep (keeps_bindCall_of (fun _ _ _ => rfl) interface info)
  | sync handle r => exact hkeep (keeps_sync_of (fun _ _ => rfl) handle r)
  | remove handle r => exact hkeep (keeps_remove_of (fun _ _ _ => rfl) handle r)
  | pull h r =>
    by_cases hh : h = handle
    · simp only [Deed.done, Deed.unidentified, hh, after_pull]
      refine record_eq_iff.mpr ⟨houtline, hnext, ?_, ?_⟩ <;> simp [counted, hfaults, hpulls]
    · simp only [Deed.done, Deed.unidentified, Call.after, pull_stranger _ _ hh]
      exact record_eq_iff.mpr ⟨houtline, hnext, hfaults, congrArg (· ++ [r]) hpulls⟩

theorem record_built (e e' : Extensions) (deeds : List Deed) :
    (built e deeds).record = (built e' (deeds.map .unidentified)).record := by
  induction deeds using List.reverseRecOn with
  | nil => rfl
  | append_singleton deeds d ih =>
    rw [List.map_append, List.map_singleton, built_snoc, built_snoc]
    exact record_done ih d

/-- Servers to which the same was done look alike, whatever identifiers were drawn. -/
theorem alike_built (e e' : Extensions) {deeds deeds' : List Deed}
    (h : deeds.map Deed.unidentified = deeds'.map .unidentified) : Alike (built e deeds) (built e' deeds') := by
  have hrecord : (built e deeds).record = (built e' deeds').record := by
    rw [record_built e .offered, h, ← record_built e' .offered]
  obtain ⟨houtline, -, hfaults, hpulls⟩ := record_eq_iff.mp hrecord
  exact ⟨houtline, hfaults, congrArg List.length hpulls⟩

end DirectoryServer

end DirectoryPull
