import DirectoryPull.Value.AttributeSet
import Mathlib.Data.List.Sort

/-!
# Members of attribute sets

A set has the ids that it was built from, and halving finds an id exactly if it is there. Ids that come in order
are taken as they are, and others are refused for the first two that break the order.
-/

namespace DirectoryPull

namespace AttributeId

theorem lt_asymm {a b : AttributeId} (h : a < b) : ¬ b < a := fun h' => lt_irrefl a (lt_trans h h')

instance : Std.Asymm fun a b : AttributeId => a < b := ⟨fun _ _ => lt_asymm⟩

end AttributeId

namespace AttributeSet

/-! ## Looking up -/

theorem mem_halves {ids above : List AttributeId} {a middle : AttributeId} {n : Nat} (h : ids.Pairwise (· < ·))
    (hdrop : ids.drop n = middle :: above) :
    (a ∈ ids ↔ a ∈ ids.take n ∨ a = middle ∨ a ∈ above) ∧ (∀ b ∈ ids.take n, b < middle) ∧ ∀ b ∈ above, middle < b := by
  have hsplit : ids.take n ++ middle :: above = ids := by rw [← hdrop, List.take_append_drop]
  rw [← hsplit, List.pairwise_append, List.pairwise_cons] at h
  obtain ⟨-, ⟨habove, -⟩, hbelow⟩ := h
  refine ⟨?_, fun b hb => hbelow b hb middle List.mem_cons_self, habove⟩
  rw [← List.mem_cons, ← List.mem_append, hsplit]

theorem bisect_iff {a : AttributeId} {ids : List AttributeId} (h : ids.Pairwise (· < ·)) :
    bisect a ids = true ↔ a ∈ ids := by
  fun_induction bisect a ids with
  | case1 ids hdrop =>
    have hempty : ids = [] := by
      rw [List.drop_eq_nil_iff] at hdrop
      exact List.eq_nil_of_length_eq_zero (by omega)
    simp [hempty]
  | case2 ids above hdrop =>
    rw [(mem_halves h hdrop).1]
    simp
  | case3 ids middle above hdrop hne hlt ih =>
    obtain ⟨hmem, -, habove⟩ := mem_halves (a := a) h hdrop
    rw [ih (h.sublist (List.take_sublist _ _)), hmem]
    refine ⟨Or.inl, fun hor => ?_⟩
    rcases hor with hbelow | rfl | hin
    · exact hbelow
    · exact absurd rfl hne
    · exact absurd (habove a hin) (AttributeId.lt_asymm hlt)
  | case4 ids middle above hdrop hne hlt ih =>
    obtain ⟨hmem, hbelow, -⟩ := mem_halves (a := a) h hdrop
    have hsub : (middle :: above).Sublist ids := hdrop ▸ List.drop_sublist _ _
    rw [ih (List.pairwise_cons.mp (h.sublist hsub)).2, hmem]
    refine ⟨fun hin => Or.inr (Or.inr hin), fun hor => ?_⟩
    rcases hor with hin | rfl | habove
    · exact absurd (hbelow a hin) hlt
    · exact absurd rfl hne
    · exact habove

theorem contains_iff (s : AttributeSet) (a : AttributeId) : s.contains a = true ↔ a ∈ s.ids := bisect_iff s.ascending

/-! ## Members -/

theorem eq_of_mem {s t : AttributeSet} (h : ∀ a, a ∈ s.ids ↔ a ∈ t.ids) : s = t := by
  obtain ⟨ids, hs⟩ := s
  obtain ⟨ids', ht⟩ := t
  congr 1
  exact hs.eq_of_mem_iff ht h

theorem eq_iff_contains {s t : AttributeSet} : s = t ↔ ∀ a, s.contains a = t.contains a := by
  constructor
  · rintro rfl a
    rfl
  · intro h
    apply eq_of_mem
    intro a
    rw [← contains_iff, ← contains_iff, h]

/-! ## Building -/

theorem mem_ofList {a : AttributeId} {ids : List AttributeId} : a ∈ (ofList ids).ids ↔ a ∈ ids := by
  induction ids with
  | nil => rfl
  | cons b ids ih =>
    change a ∈ place b (ofList ids).ids ↔ a ∈ b :: ids
    rw [mem_place, ih, List.mem_cons]

theorem ofList_eq_iff {ids ids' : List AttributeId} : ofList ids = ofList ids' ↔ ∀ a, a ∈ ids ↔ a ∈ ids' := by
  constructor
  · intro h a
    rw [← mem_ofList, h, mem_ofList]
  · intro h
    apply eq_of_mem
    intro a
    rw [mem_ofList, mem_ofList, h]

theorem ofList_ids (s : AttributeSet) : ofList s.ids = s := eq_of_mem fun _ => mem_ofList

/-! ## Ids in order -/

theorem disorder_of_ascending (i : Nat) {ids : List AttributeId} (h : ids.Pairwise (· < ·)) :
    disorder i ids = none := by
  fun_induction disorder i ids with
  | case1 i a rest =>
    obtain ⟨hab, -⟩ := List.pairwise_cons.mp h
    exact absurd (hab a List.mem_cons_self) (AttributeId.lt_irrefl a)
  | case2 i a b rest _ hlt =>
    obtain ⟨hab, -⟩ := List.pairwise_cons.mp h
    exact absurd hlt (AttributeId.lt_asymm (hab b List.mem_cons_self))
  | case3 i a b rest _ _ ih => exact ih (List.pairwise_cons.mp h).2
  | case4 => rfl

theorem ofSorted_ids (s : AttributeSet) : ofSorted s.ids = .ok s := by
  have hnone := disorder_of_ascending 0 s.ascending
  unfold ofSorted
  split
  · simp_all
  · rfl

theorem ofSorted_ok_iff {ids : List AttributeId} {s : AttributeSet} : ofSorted ids = .ok s ↔ s.ids = ids := by
  constructor
  · intro h
    unfold ofSorted at h
    split at h
    · contradiction
    · rw [← Except.ok.inj h]
  · rintro rfl
    exact ofSorted_ids s

theorem ofVersioned_ok_iff {version : UInt32} {ids : List AttributeId} {s : AttributeSet} :
    ofVersioned version ids = .ok s ↔ version = AttributeSet.version ∧ s.ids = ids := by
  unfold ofVersioned
  split
  · next hversion => rw [ofSorted_ok_iff, and_iff_right hversion]
  · next hversion =>
    constructor
    · intro h
      contradiction
    · rintro ⟨hone, -⟩
      exact absurd hone hversion

/-! ## Ids out of order -/

/-- The id at an index is not below the next one. -/
structure BreaksAt (ids : List AttributeId) (i : Nat) (previous next : AttributeId) : Prop where
  here : ids[i]? = some previous
  behind : ids[i + 1]? = some next
  broken : next.value ≤ previous.value

/-- The least index at which the order breaks. -/
structure FirstBreak (ids : List AttributeId) (i : Nat) (previous next : AttributeId) : Prop where
  breaks : BreaksAt ids i previous next
  least : ∀ j a b, BreaksAt ids j a b → i ≤ j

/-- What is reported of two neighbours at a break. -/
def breakError (i : Nat) (previous next : AttributeId) : ValueError :=
  if previous = next then .repeated next else .unsorted (i + 1) previous next

variable {ids : List AttributeId} {a b previous next : AttributeId} {i : Nat}

theorem not_breaksAt_of_ascending (h : ids.Pairwise (· < ·)) : ¬ BreaksAt ids i previous next := by
  rintro ⟨hhere, hbehind, hbroken⟩
  obtain ⟨hi, rfl⟩ := List.getElem?_eq_some_iff.mp hhere
  obtain ⟨hi', rfl⟩ := List.getElem?_eq_some_iff.mp hbehind
  exact absurd hbroken (UInt32.not_le.mpr (List.pairwise_iff_getElem.mp h i (i + 1) hi hi' (by omega)))

theorem firstBreak_head (h : b.value ≤ a.value) (rest : List AttributeId) : FirstBreak (a :: b :: rest) 0 a b :=
  ⟨⟨rfl, rfl, h⟩, fun _ _ _ _ => Nat.zero_le _⟩

theorem FirstBreak.cons {rest : List AttributeId} (hab : a < b) (h : FirstBreak (b :: rest) i previous next) :
    FirstBreak (a :: b :: rest) (i + 1) previous next := by
  refine ⟨⟨h.breaks.here, h.breaks.behind, h.breaks.broken⟩, fun j c d hj => ?_⟩
  cases j with
  | zero =>
    obtain ⟨hc, hd, hbroken⟩ := hj
    obtain rfl := Option.some.inj hc
    obtain rfl := Option.some.inj hd
    exact absurd hbroken (UInt32.not_le.mpr hab)
  | succ j => exact Nat.succ_le_succ (h.least j c d ⟨hj.here, hj.behind, hj.broken⟩)

theorem firstBreak_of_disorder {start : Nat} {e : ValueError} (h : disorder start ids = some e) :
    ∃ i previous next, FirstBreak ids i previous next ∧ e = breakError (start + i) previous next := by
  fun_induction disorder start ids with
  | case1 start a rest =>
    rw [← Option.some.inj h]
    exact ⟨0, a, a, firstBreak_head (UInt32.le_refl _) rest, (if_pos rfl).symm⟩
  | case2 start a b rest hne hlt =>
    rw [← Option.some.inj h]
    exact ⟨0, a, b, firstBreak_head (UInt32.le_of_lt hlt) rest, (if_neg hne).symm⟩
  | case3 start a b rest hne hlt ih =>
    obtain ⟨i, previous, next, hfirst, rfl⟩ := ih h
    have hab := (AttributeId.lt_or_lt_of_ne hne).resolve_right hlt
    exact ⟨i + 1, previous, next, hfirst.cons hab, by rw [Nat.add_assoc, Nat.add_comm 1 i]⟩
  | case4 => contradiction

theorem ofSorted_disordered (h : ¬ ids.Pairwise (· < ·)) :
    ∃ i previous next, FirstBreak ids i previous next ∧ ofSorted ids = .error (breakError i previous next) := by
  unfold ofSorted
  split
  · next e hdisorder =>
    obtain ⟨i, previous, next, hfirst, rfl⟩ := firstBreak_of_disorder hdisorder
    exact ⟨i, previous, next, hfirst, by rw [Nat.zero_add]⟩
  · next hnone => exact absurd (ascending_of_disorder hnone) h

/-- **Received sets.** -/
theorem received_exact (version : UInt32) (ids : List AttributeId) :
    (ids.Pairwise (· < ·) ↔ ∃ s, ofSorted ids = .ok s ∧ s.ids = ids) ∧
    (¬ ids.Pairwise (· < ·) ↔
      ∃ i previous next, FirstBreak ids i previous next ∧ ofSorted ids = .error (breakError i previous next)) ∧
    ofVersioned version ids = (if version = 1 then ofSorted ids else .error (.setVersion version)) ∧
    (ids.Nodup ∨ ∃ e, ofVersioned version ids = .error e) := by
  refine ⟨⟨fun h => ?accepted, ?ascending⟩, ⟨ofSorted_disordered, ?broken⟩, rfl, ?repeated⟩
  case accepted => exact ⟨⟨ids, h⟩, ofSorted_ids ⟨ids, h⟩, rfl⟩
  case ascending =>
    rintro ⟨s, -, rfl⟩
    exact s.ascending
  case broken =>
    rintro ⟨i, previous, next, hfirst, -⟩ h
    exact not_breaksAt_of_ascending h hfirst.breaks
  case repeated =>
    cases hread : ofVersioned version ids with
    | error e => exact Or.inr ⟨e, rfl⟩
    | ok s =>
      obtain ⟨-, rfl⟩ := ofVersioned_ok_iff.mp hread
      exact Or.inl s.ascending.nodup

end AttributeSet

end DirectoryPull
