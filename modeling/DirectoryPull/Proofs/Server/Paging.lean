import DirectoryPull.Proofs.Pull.Steps
import DirectoryPull.Proofs.Server.Numbering

/-!
# Pages

A page takes up the objects that its cursor has not passed. A cursor that stands on the last object of those handed
out so far makes the page continue them, with nothing in between and nothing twice.
-/

namespace DirectoryPull

/-- The update number of the last of some objects; zero where there are none. -/
def lastUsn (objects : List NumberedObject) : UInt64 := (objects.getLast?.map (·.usn)).getD 0

theorem lastUsn_append (taken more : List NumberedObject) :
    lastUsn (taken ++ more) = (more.getLast?.map (·.usn)).getD (lastUsn taken) := by
  rw [lastUsn, List.getLast?_append]
  cases more.getLast? <;> rfl

theorem lastUsn_snoc (objects : List NumberedObject) (o : NumberedObject) : lastUsn (objects ++ [o]) = o.usn := by
  simp [lastUsn_append]

namespace Ascending

variable {next : UInt64} {taken rest : List NumberedObject}

theorem le_lastUsn (h : Ascending next taken) : ∀ o ∈ taken, o.usn ≤ lastUsn taken := by
  intro o ho
  rcases List.eq_nil_or_concat taken with rfl | ⟨front, last, rfl⟩
  · simp at ho
  rw [List.concat_eq_append] at h ho ⊢
  rw [lastUsn_snoc]
  rcases List.mem_append.mp ho with ho | ho
  · exact UInt64.le_of_lt (h.of_snoc.passed o ho)
  · rw [List.mem_singleton.mp ho]
    exact UInt64.le_refl _

theorem lastUsn_lt (h : Ascending next (taken ++ rest)) : ∀ o ∈ rest, lastUsn taken < o.usn := by
  intro o ho
  rcases List.eq_nil_or_concat taken with rfl | ⟨front, last, rfl⟩
  · exact h.positive o ho
  rw [List.concat_eq_append] at h ⊢
  rw [lastUsn_snoc]
  exact (List.pairwise_append.mp h.sorted).2.2 last (List.mem_append_right _ (List.mem_singleton_self _)) o ho

theorem lastUsn_pos (h : Ascending next taken) (hne : taken ≠ []) : 0 < lastUsn taken := by
  have hlast := List.getLast_mem hne
  exact UInt64.lt_of_lt_of_le (h.positive _ hlast) (h.le_lastUsn _ hlast)

theorem left (h : Ascending next (taken ++ rest)) : Ascending next taken where
  sorted := (List.pairwise_append.mp h.sorted).1
  positive o ho := h.positive o (List.mem_append_left _ ho)
  passed o ho := h.passed o (List.mem_append_left _ ho)

end Ascending

namespace DirectoryServer

/-! ## What is on a page -/

theorem pageSize_pos (r : PullRequest) : 0 < pageSize r := by
  unfold pageSize
  omega

theorem pageSize_lt (r : PullRequest) : pageSize r < UInt32.size := by
  have hmax : r.terms.maxObjects.toNat < UInt32.size := r.terms.maxObjects.toNat_lt
  unfold pageSize
  unfold UInt32.size at hmax ⊢
  omega

def sent (objects : List NumberedObject) (r : PullRequest) : List NumberedObject :=
  (pending objects r.terms.cursor).take (pageSize r)

def names (objects : List NumberedObject) : List String := objects.map (·.object.name.dn)

section

variable (objects : List NumberedObject) (r : PullRequest)

theorem page_objects : (page objects r).objects = (sent objects r).map (·.object) :=
  map_object_foldr_linkFront _

theorem page_dns : (page objects r).dns = names (sent objects r) := by
  rw [Chunk.dns, page_objects, names, List.map_map]
  rfl

theorem page_length : (page objects r).chain.length = (sent objects r).length := by
  rw [← Chunk.dns_length, page_dns, names, List.length_map]

theorem page_countOf : (page objects r).count = Chunk.countOf (sent objects r).length := by
  have hcount : (page objects r).count = Chunk.countOf ((sent objects r).map (·.object)).length := rfl
  rw [hcount, List.length_map]

theorem page_count : (page objects r).count.toNat = (sent objects r).length := by
  have hsent : (sent objects r).length ≤ pageSize r := List.length_take_le _ _
  have hsize := pageSize_lt r
  rw [UInt32.size] at hsize
  rw [page_countOf, Chunk.toNat_countOf, Nat.min_eq_left (by omega)]

theorem page_more : (page objects r).more = true ↔ pageSize r < (pending objects r.terms.cursor).length := by
  simp [page, Chunk.ofObjects]

theorem page_newCursor : (page objects r).newCursor =
    cursorAfter r.terms.cursor (sent objects r) (page objects r).more := rfl

theorem right_le_max (a b : UInt64) : b ≤ max a b := by
  change b ≤ if a ≤ b then b else a
  split
  · exact UInt64.le_refl b
  · next h => exact UInt64.le_of_lt (UInt64.not_le.mp h)

theorem max_zero (a : UInt64) : max a 0 = a := by
  change (if a ≤ 0 then 0 else a) = a
  split
  · next h => exact UInt64.le_antisymm UInt64.zero_le h
  · rfl

theorem le_cursorAfter (more : Bool) : r.terms.cursor ≤ cursorAfter r.terms.cursor (sent objects r) more := by
  have hlast : r.terms.cursor.current ≤ ((sent objects r).getLast?.map (·.usn)).getD r.terms.cursor.current := by
    cases ho : (sent objects r).getLast? with
    | none => exact UInt64.le_refl _
    | some o =>
      have hsent : o ∈ pending objects r.terms.cursor := List.mem_of_mem_take (List.mem_of_getLast? ho)
      have := (List.mem_filter.mp hsent).2
      exact UInt64.le_of_lt (of_decide_eq_true this)
  refine ⟨hlast, UInt64.le_refl _, ?_⟩
  cases more with
  | true => exact UInt64.le_refl _
  | false => exact right_le_max _ _

theorem page_good : (page objects r).Good r.terms.cursor where
  listed := by
    by_cases h : (page objects r).chain = []
    · have hcount := page_count objects r
      rw [← page_length, h, List.length_nil] at hcount
      exact Or.inl (UInt32.toNat_inj.mp hcount)
    · exact Or.inr h
  forward := le_cursorAfter objects r _
  counted := by rw [page_length, page_count]

end

/-! ## Pages that follow on each other -/

section

variable {next : UInt64} {taken rest : List NumberedObject} (h : Ascending next (taken ++ rest))
include h

theorem pending_append {c : Cursor} (hc : c.current = lastUsn taken) : pending (taken ++ rest) c = rest := by
  have htaken : taken.filter (fun o => c.current < o.usn) = [] := by
    rw [List.filter_eq_nil_iff]
    intro o ho
    rw [decide_eq_true_eq, hc, UInt64.not_lt]
    exact h.left.le_lastUsn o ho
  have hrest : rest.filter (fun o => c.current < o.usn) = rest := by
    rw [List.filter_eq_self]
    intro o ho
    rw [decide_eq_true_eq, hc]
    exact h.lastUsn_lt o ho
  rw [pending, List.filter_append, htaken, hrest, List.nil_append]

variable {r : PullRequest} (hc : r.terms.cursor.current = lastUsn taken)
include hc

theorem sent_append : sent (taken ++ rest) r = rest.take (pageSize r) := by
  rw [sent, pending_append h hc]

theorem more_append : (page (taken ++ rest) r).more = true ↔ pageSize r < rest.length := by
  rw [page_more, pending_append h hc]

theorem newCursor_append : (page (taken ++ rest) r).newCursor.current = lastUsn (taken ++ rest.take (pageSize r)) := by
  rw [page_newCursor, sent_append h hc, lastUsn_append, ← hc]
  rfl

end

/-! ## Pages by their number -/

section

variable (objects : List NumberedObject) (size : Nat)

/-- How many pages objects fill; even no objects take one. -/
def pageCount : Nat := max 1 ((objects.length + size - 1) / size)

def pageAt (i : Nat) : List NumberedObject := (objects.drop (i * size)).take size

/-- The cursor in front of a page. Behind the last page the cycle is complete. -/
def cursorAt (i : Nat) : Cursor :=
  ⟨lastUsn (objects.take (i * size)), 0, if i < pageCount objects size then 0 else lastUsn (objects.take (i * size))⟩

theorem pageCount_pos : 0 < pageCount objects size := by
  unfold pageCount
  omega

theorem cursorAt_zero : cursorAt objects size 0 = .zero := by
  rw [cursorAt, if_pos (pageCount_pos objects size), Nat.zero_mul, List.take_zero]
  rfl

theorem take_succ_pages (i : Nat) :
    objects.take ((i + 1) * size) = objects.take (i * size) ++ pageAt objects size i := by
  rw [Nat.succ_mul, List.take_add, pageAt]

theorem flatMap_names_pageAt (count : Nat) :
    (List.range count).flatMap (fun i => names (pageAt objects size i)) = names (objects.take (count * size)) := by
  induction count with
  | zero => simp [names]
  | succ count ih =>
    rw [List.range_succ, List.flatMap_append, ih, take_succ_pages]
    simp [names]

variable {objects size} (hsize : 0 < size)
include hsize

theorem succ_lt_pageCount {i : Nat} : i + 1 < pageCount objects size ↔ (i + 1) * size < objects.length := by
  have hdiv : i + 1 < (objects.length + size - 1) / size ↔ (i + 1) * size < objects.length := by
    rw [← Nat.succ_le_iff, Nat.le_div_iff_mul_le hsize, Nat.succ_mul]
    omega
  unfold pageCount
  omega

theorem mul_lt_of_lt_pageCount {i : Nat} (hi : 0 < i) (hlt : i < pageCount objects size) :
    i * size < objects.length := by
  obtain ⟨j, rfl⟩ : ∃ j, i = j + 1 := ⟨i - 1, by omega⟩
  exact (succ_lt_pageCount hsize).mp hlt

theorem length_le_pages : objects.length ≤ pageCount objects size * size := by
  obtain ⟨j, hj⟩ := Nat.exists_eq_succ_of_ne_zero (Nat.ne_of_gt (pageCount_pos objects size))
  have hlast : ¬ j + 1 < pageCount objects size := by omega
  rw [succ_lt_pageCount hsize] at hlast
  rw [hj, Nat.succ_eq_add_one]
  omega

theorem pageCount_le : pageCount objects size ≤ objects.length + 1 := by
  by_contra h
  have hlt : (objects.length + 1) * size < objects.length :=
    mul_lt_of_lt_pageCount hsize (Nat.succ_pos objects.length) (by omega)
  have := Nat.le_mul_of_pos_right (objects.length + 1) hsize
  omega

theorem length_pageAt {i : Nat} (hi : i + 1 < pageCount objects size) : (pageAt objects size i).length = size := by
  have := (succ_lt_pageCount hsize).mp hi
  rw [Nat.succ_mul] at this
  rw [pageAt, List.length_take, List.length_drop]
  omega

theorem take_pageCount : objects.take (pageCount objects size * size) = objects :=
  List.take_of_length_le (length_le_pages hsize)

theorem cursorAt_pageCount :
    cursorAt objects size (pageCount objects size) = ⟨lastUsn objects, 0, lastUsn objects⟩ := by
  rw [cursorAt, if_neg (Nat.lt_irrefl _), take_pageCount hsize]

end

/-- Only the first page is asked for from the zero cursor. -/
theorem not_cursorAt_le_zero {next : UInt64} {objects : List NumberedObject} {size i : Nat}
    (h : Ascending next objects) (hsize : 0 < size) (hi : 0 < i) (hlt : i < pageCount objects size) :
    ¬ cursorAt objects size i ≤ .zero := by
  rintro ⟨hle, -, -⟩
  have hsplit := List.take_append_drop (i * size) objects
  have hne : objects.take (i * size) ≠ [] := by
    have := mul_lt_of_lt_pageCount hsize hi hlt
    have := Nat.mul_pos hi hsize
    rw [← List.length_pos_iff, List.length_take]
    omega
  rw [← hsplit] at h
  exact UInt64.not_le.mpr (h.left.lastUsn_pos hne) hle

/-! ## Pages in turn -/

section

variable {next : UInt64} {objects : List NumberedObject} {r : PullRequest} {i : Nat} (h : Ascending next objects)
  (hc : r.terms.cursor = cursorAt objects (pageSize r) i)
include h hc

theorem sent_pageAt : sent objects r = pageAt objects (pageSize r) i := by
  have hsplit := List.take_append_drop (i * pageSize r) objects
  rw [← hsplit] at h
  have hsent : sent (objects.take (i * pageSize r) ++ objects.drop (i * pageSize r)) r = _ :=
    sent_append h (by rw [hc]; rfl)
  rwa [hsplit] at hsent

theorem more_pageAt : (page objects r).more = true ↔ i + 1 < pageCount objects (pageSize r) := by
  have hsplit := List.take_append_drop (i * pageSize r) objects
  rw [← hsplit] at h
  have hmore : (page (objects.take (i * pageSize r) ++ objects.drop (i * pageSize r)) r).more = true ↔ _ :=
    more_append h (by rw [hc]; rfl)
  rw [hsplit, List.length_drop] at hmore
  rw [hmore, succ_lt_pageCount (pageSize_pos r), Nat.succ_mul]
  omega

theorem cursor_pageAt (hi : i < pageCount objects (pageSize r)) :
    (page objects r).newCursor = cursorAt objects (pageSize r) (i + 1) := by
  have hlast : ((sent objects r).getLast?.map (·.usn)).getD r.terms.cursor.current =
      lastUsn (objects.take ((i + 1) * pageSize r)) := by
    rw [take_succ_pages, lastUsn_append, sent_pageAt h hc, hc]
    rfl
  rw [page_newCursor, cursorAfter, hlast, hc, cursorAt, cursorAt, if_pos hi]
  by_cases hm : i + 1 < pageCount objects (pageSize r)
  · rw [if_pos ((more_pageAt h hc).mpr hm), if_pos hm]
  · rw [if_neg fun hmore => hm ((more_pageAt h hc).mp hmore), if_neg hm, max_zero]

end

end DirectoryServer

end DirectoryPull
