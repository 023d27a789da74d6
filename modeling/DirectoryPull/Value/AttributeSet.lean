import DirectoryPull.Value.Error

/-!
# Attribute sets

The attributes a partial replica asks for, strictly ascending: a server skips what it finds out of order.
-/

namespace DirectoryPull

structure AttributeSet where
  ids : List AttributeId
  ascending : ids.Pairwise (· < ·)
deriving DecidableEq

namespace AttributeSet

def version : UInt32 := 1

def empty : AttributeSet := ⟨[], .nil⟩

def size (s : AttributeSet) : Nat := s.ids.length

def isEmpty (s : AttributeSet) : Bool := s.ids.isEmpty

/-- Looks in the half of ascending ids where an id has to be. -/
def bisect (a : AttributeId) (ids : List AttributeId) : Bool :=
  match h : ids.drop (ids.length / 2) with
  | [] => false
  | middle :: above =>
    if a = middle then true
    else if a < middle then bisect a (ids.take (ids.length / 2))
    else bisect a above
termination_by ids.length
decreasing_by
  · have := congrArg List.length h
    simp only [List.length_drop, List.length_cons] at this
    simp only [List.length_take]
    omega
  · have := congrArg List.length h
    simp only [List.length_drop, List.length_cons] at this
    omega

def contains (s : AttributeSet) (a : AttributeId) : Bool := bisect a s.ids

/-! ## From ids in any order -/

/-- Puts an id in its place, unless it is there. -/
def place (a : AttributeId) : List AttributeId → List AttributeId
  | [] => [a]
  | b :: bs => if a = b then b :: bs else if a < b then a :: b :: bs else b :: place a bs

theorem mem_place {a x : AttributeId} {bs : List AttributeId} : x ∈ place a bs ↔ x = a ∨ x ∈ bs := by
  induction bs with
  | nil => simp [place]
  | cons b bs ih =>
    unfold place
    split
    · grind
    · split <;> grind

theorem ascending_place {a : AttributeId} {bs : List AttributeId} (h : bs.Pairwise (· < ·)) :
    (place a bs).Pairwise (· < ·) := by
  induction bs with
  | nil => simp [place]
  | cons b bs ih =>
    rw [List.pairwise_cons] at h
    unfold place
    split
    · exact List.pairwise_cons.mpr h
    · split
      · rename_i hab
        refine List.pairwise_cons.mpr ⟨fun x hx => ?_, List.pairwise_cons.mpr h⟩
        rcases List.mem_cons.mp hx with rfl | hx
        · exact hab
        · exact AttributeId.lt_trans hab (h.1 x hx)
      · rename_i hne hlt
        refine List.pairwise_cons.mpr ⟨fun x hx => ?_, ih h.2⟩
        rcases mem_place.mp hx with rfl | hx
        · exact (AttributeId.lt_or_lt_of_ne hne).resolve_left hlt
        · exact h.1 x hx

def insert (a : AttributeId) (s : AttributeSet) : AttributeSet := ⟨place a s.ids, ascending_place s.ascending⟩

/-- Sorts the ids and drops repetitions. -/
def ofList (ids : List AttributeId) : AttributeSet := ids.foldr insert empty

/-! ## From ids that must be in order -/

/-- The first place, counted from `index`, at which the ids do not ascend. -/
def disorder (index : Nat) : List AttributeId → Option ValueError
  | a :: b :: rest =>
    if a = b then some (.repeated b)
    else if b < a then some (.unsorted (index + 1) a b)
    else disorder (index + 1) (b :: rest)
  | _ => none

theorem ascending_of_disorder {i : Nat} {ids : List AttributeId} (h : disorder i ids = none) :
    ids.Pairwise (· < ·) := by
  fun_induction disorder i ids with
  | case1 => simp at h
  | case2 => simp at h
  | case3 i a b rest hne hlt ih =>
    have hb := ih h
    have hab := (AttributeId.lt_or_lt_of_ne hne).resolve_right hlt
    refine List.pairwise_cons.mpr ⟨fun x hx => ?_, hb⟩
    rcases List.mem_cons.mp hx with rfl | hx
    · exact hab
    · exact AttributeId.lt_trans hab ((List.pairwise_cons.mp hb).1 x hx)
  | case4 ids _ hids =>
    match ids, hids with
    | [], _ => exact .nil
    | [_], _ => exact List.pairwise_singleton _ _
    | a :: b :: rest, hids => exact absurd rfl (hids a b rest)

/-- Accepts the ids exactly if they ascend. -/
def ofSorted (ids : List AttributeId) : Except ValueError AttributeSet :=
  match h : disorder 0 ids with
  | some e => .error e
  | none => .ok ⟨ids, ascending_of_disorder h⟩

/-- A set as received, with its version in front. -/
def ofVersioned (version : UInt32) (ids : List AttributeId) : Except ValueError AttributeSet :=
  if version = AttributeSet.version then ofSorted ids else .error (.setVersion version)

end AttributeSet

end DirectoryPull
