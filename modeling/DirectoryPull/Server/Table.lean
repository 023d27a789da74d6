/-!
# Tables

Values under keys. A key stands at most once, since entering it again replaces its value.
-/

namespace DirectoryPull

structure Table (κ ν : Type) where
  entries : List (κ × ν)

namespace Table

variable {κ ν : Type} [DecidableEq κ]

def empty : Table κ ν := ⟨[]⟩

def get? (t : Table κ ν) (k : κ) : Option ν := (t.entries.find? fun e => e.1 = k).map Prod.snd

def contains (t : Table κ ν) (k : κ) : Bool := (t.get? k).isSome

def erase (t : Table κ ν) (k : κ) : Table κ ν := ⟨t.entries.filter fun e => e.1 ≠ k⟩

def insert (t : Table κ ν) (k : κ) (v : ν) : Table κ ν := ⟨(k, v) :: (t.erase k).entries⟩

theorem mem_keys {t : Table κ ν} {k : κ} {v : ν} (h : t.get? k = some v) : k ∈ t.entries.map Prod.fst := by
  rw [get?, Option.map_eq_some_iff] at h
  obtain ⟨entry, hentry, -⟩ := h
  have hkey := List.find?_some hentry
  rw [decide_eq_true_eq] at hkey
  exact List.mem_map.mpr ⟨entry, List.mem_of_find?_eq_some hentry, hkey⟩

@[simp] theorem get?_empty (k : κ) : (empty : Table κ ν).get? k = none := rfl

@[simp] theorem get?_erase_self (t : Table κ ν) (k : κ) : (t.erase k).get? k = none := by
  simp [get?, erase]

theorem get?_erase_of_ne (t : Table κ ν) {k k' : κ} (h : k' ≠ k) : (t.erase k).get? k' = t.get? k' := by
  simp only [get?, erase, List.find?_filter]
  congr 2
  funext e
  by_cases he : e.1 = k' <;> simp_all

@[simp] theorem get?_insert_self (t : Table κ ν) (k : κ) (v : ν) : (t.insert k v).get? k = some v := by
  simp [get?, insert]

theorem get?_insert_of_ne (t : Table κ ν) {k k' : κ} (v : ν) (h : k' ≠ k) :
    (t.insert k v).get? k' = t.get? k' := by
  rw [← get?_erase_of_ne t h]
  simp [get?, insert, Ne.symm h]

end Table

end DirectoryPull
