import DirectoryPull.Message.Reply
import Mathlib.Algebra.Group.Nat.Defs

/-!
# What a chunk is made of

A chunk lists the objects that it was built from, and counts them as far as a word goes. A chain that is built anew is
the same chain.
-/

namespace DirectoryPull

/-! ## Chains -/

theorem foldr_linkFront (objects : List ReplicaObject) :
    objects.foldr linkFront [] = objects.map fun o => ⟨o, false, none⟩ := by
  induction objects with
  | nil => rfl
  | cons o objects ih => rw [List.foldr_cons, linkFront, ih, List.map_cons]

theorem map_object_foldr_linkFront (objects : List ReplicaObject) :
    (objects.foldr linkFront []).map (·.object) = objects := by
  rw [foldr_linkFront, List.map_map]
  exact List.map_id _

theorem linkAll_eq (nodes : List ObjectNode) : linkAll nodes = nodes := by
  rw [linkAll, List.foldl_reverse, List.foldr_cons_nil]

theorem relink_eq (chain : List ObjectNode) : relink chain = chain := by
  cases chain with
  | nil => rfl
  | cons head rest => rw [relink, linkAll_eq]

namespace Chunk

/-! ## Counts -/

theorem toNat_countOf (n : Nat) : (countOf n).toNat = min n (2 ^ 32 - 1) := by
  have hbound : min n (UInt32.size - 1) < UInt32.size := by
    rw [UInt32.size]
    omega
  exact UInt32.toNat_ofNat_of_lt' hbound

theorem countOf_eq_zero_iff (n : Nat) : countOf n = 0 ↔ n = 0 := by
  rw [← UInt32.toNat_inj, toNat_countOf, UInt32.toNat_zero]
  omega

theorem dns_length (c : Chunk) : c.dns.length = c.chain.length := by simp [dns, objects]

theorem isMissingObjects_iff (c : Chunk) : c.isMissingObjects = true ↔ c.count ≠ 0 ∧ c.chain = [] := by
  simp [isMissingObjects]

/-! ## Chunks of a list -/

section

variable (context : ObjectName) (oldCursor newCursor : Cursor) (objects : List ReplicaObject) (more : Bool)

theorem objects_ofObjects : (ofObjects context oldCursor newCursor objects more).objects = objects :=
  map_object_foldr_linkFront objects

theorem isMissingObjects_ofObjects : (ofObjects context oldCursor newCursor objects more).isMissingObjects = false := by
  rw [← Bool.not_eq_true, isMissingObjects_iff, ofObjects, foldr_linkFront, List.map_eq_nil_iff]
  rintro ⟨hcount, rfl⟩
  exact hcount ((countOf_eq_zero_iff 0).mpr rfl)

end

theorem copy_eq (c : Chunk) : c.copy = c := by rw [copy, relink_eq]

/-- **Object lists.** -/
theorem keeps_objects :
    (∀ context oldCursor newCursor objects more,
      (ofObjects context oldCursor newCursor objects more).objects = objects ∧
      (ofObjects context oldCursor newCursor objects more).count.toNat = min objects.length (2 ^ 32 - 1) ∧
      (ofObjects context oldCursor newCursor objects more).isMissingObjects = false) ∧
    (∀ chain, relink chain = chain) ∧
    ∀ c : Chunk, c.copy = c ∧ c.copy.objects = c.objects := by
  refine ⟨?built, relink_eq, ?copied⟩
  case built =>
    intro context oldCursor newCursor objects more
    exact ⟨objects_ofObjects .., toNat_countOf objects.length, isMissingObjects_ofObjects ..⟩
  case copied =>
    intro c
    rw [copy_eq]
    exact ⟨rfl, rfl⟩

end Chunk

end DirectoryPull
