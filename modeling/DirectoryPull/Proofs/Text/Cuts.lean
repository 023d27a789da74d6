import DirectoryPull.Text.Blank
import Mathlib.Data.List.DropRight

/-!
# Cuts and joins

Cutting a text at a separator undoes joining, as long as no part has the separator in it. Blanks around a part
go, and what is left has none at its ends.
-/

namespace DirectoryPull.Text

variable {sep : Char} {cs a b : List Char}

/-! ## The first separator -/

theorem cut_append (h : sep ∉ a) : cut? sep (a ++ sep :: b) = some (a, b) := by
  induction a with
  | nil => simp [cut?]
  | cons c a ih =>
    rw [List.mem_cons, not_or] at h
    rw [List.cons_append, cut?, if_neg (Ne.symm h.1), ih h.2, Option.map_some]

theorem cut_eq_none (h : sep ∉ cs) : cut? sep cs = none := by
  induction cs with
  | nil => rfl
  | cons c cs ih =>
    rw [List.mem_cons, not_or] at h
    rw [cut?, if_neg (Ne.symm h.1), ih h.2, Option.map_none]

theorem of_cut_eq_some (h : cut? sep cs = some (a, b)) : cs = a ++ sep :: b ∧ sep ∉ a := by
  by_cases hmem : sep ∈ cs
  · obtain ⟨front, back, rfl, hfront⟩ := List.eq_append_cons_of_mem hmem
    rw [cut_append hfront, Option.some.injEq, Prod.mk.injEq] at h
    exact ⟨by rw [h.1, h.2], h.1 ▸ hfront⟩
  · rw [cut_eq_none hmem] at h
    exact absurd h (by simp)

/-! ## Every separator -/

theorem split_eq_splitOn (sep : Char) (cs : List Char) : split sep cs = cs.splitOn sep := by
  induction cs with
  | nil => rw [split, List.splitOn_nil]
  | cons c cs ih =>
    rw [split, List.splitOn_cons_eq_if_modifyHead, ih]
    by_cases hc : c = sep
    · simp [hc]
    · cases hsplit : cs.splitOn sep with
      | nil => exact absurd hsplit (List.splitOn_ne_nil _ _)
      | cons piece pieces => simp [hc]

theorem split_join {pieces : List (List Char)} (h : ∀ p ∈ pieces, sep ∉ p) (hne : pieces ≠ []) :
    split sep ([sep].intercalate pieces) = pieces := by
  rw [split_eq_splitOn, List.splitOn_intercalate sep h hne]

theorem split_append (h : sep ∉ a) : split sep (a ++ sep :: b) = a :: split sep b := by
  rw [split_eq_splitOn, split_eq_splitOn, List.splitOn_append_cons_self_of_not_mem h]

theorem split_append_sep (sep : Char) (a b : List Char) : split sep (a ++ sep :: b) = split sep a ++ split sep b := by
  simp only [split_eq_splitOn, List.splitOn_append_cons_self]

theorem split_eq_singleton (h : sep ∉ cs) : split sep cs = [cs] := by
  rw [split_eq_splitOn, List.splitOn_eq_singleton h]

theorem not_mem_of_mem_split {p : List Char} (h : p ∈ split sep cs) : sep ∉ p := by
  fun_induction split sep cs generalizing p with
  | case1 => simp_all
  | case2 cs ih =>
    rcases List.mem_cons.mp h with rfl | h
    · simp
    · exact ih h
  | case3 c cs hc hsplit ih =>
    rw [List.mem_singleton.mp h, List.mem_singleton]
    exact Ne.symm hc
  | case4 c cs hc piece pieces hsplit ih =>
    rcases List.mem_cons.mp h with rfl | h
    · rw [List.mem_cons, not_or]
      exact ⟨Ne.symm hc, ih (hsplit ▸ List.mem_cons_self)⟩
    · exact ih (hsplit ▸ List.mem_cons_of_mem _ h)

/-! ## Blanks -/

def StartsPlain (cs : List Char) : Prop := ∀ c ∈ cs.head?, isBlank c = false

def Trimmed (cs : List Char) : Prop := StartsPlain cs ∧ StartsPlain cs.reverse

-- The instance is named, since one that tries every character may be found too.
instance (cs : List Char) : Decidable (StartsPlain cs) := cs.head?.decidableForallMem

instance (cs : List Char) : Decidable (Trimmed cs) := inferInstanceAs (Decidable (_ ∧ _))

theorem trimmed_of_plain (h : ∀ c ∈ cs, isBlank c = false) : Trimmed cs :=
  ⟨fun c hc => h c (List.mem_of_mem_head? hc), fun c hc => h c (List.mem_reverse.mp (List.mem_of_mem_head? hc))⟩

theorem trimStart_eq_self (h : StartsPlain cs) : trimStart cs = cs := by
  cases cs with
  | nil => rfl
  | cons c cs => exact List.dropWhile_cons_of_neg (by simp [h c rfl])

theorem startsPlain_trimStart (cs : List Char) : StartsPlain (trimStart cs) := by
  intro c hc
  have hhead := List.head?_dropWhile_not isBlank cs
  rwa [← trimStart, Option.mem_def.mp hc] at hhead

theorem trimStart_padded {front : List Char} (h : ∀ c ∈ front, isBlank c = true) :
    trimStart (front ++ cs) = trimStart cs :=
  List.dropWhile_append_of_pos h

theorem trimEnd_eq_reverse (cs : List Char) : trimEnd cs = (trimStart cs.reverse).reverse := rfl

theorem startsPlain_trimEnd (h : StartsPlain cs) : StartsPlain (trimEnd cs) := by
  intro c hc
  obtain ⟨back, hback⟩ := List.rdropWhile_prefix isBlank cs
  refine h c ?_
  rw [← hback, List.head?_append, Option.mem_def, Option.or_eq_some_iff]
  exact Or.inl hc

theorem trimmed_trim (cs : List Char) : Trimmed (trim cs) := by
  refine ⟨startsPlain_trimEnd (startsPlain_trimStart cs), ?_⟩
  rw [trim, trimEnd_eq_reverse, List.reverse_reverse]
  exact startsPlain_trimStart _

theorem trim_padded {front back : List Char} (h : Trimmed cs) (hfront : ∀ c ∈ front, isBlank c = true)
    (hback : ∀ c ∈ back, isBlank c = true) : trim (front ++ (cs ++ back)) = cs := by
  by_cases hcs : cs = []
  · rw [hcs, trim, trimStart_padded hfront, trimStart, List.nil_append, List.dropWhile_eq_nil_iff.mpr hback]
    rfl
  · have hend : trimEnd (cs ++ back) = cs := by
      rw [trimEnd_eq_reverse, List.reverse_append, trimStart_padded fun c hc => hback c (List.mem_reverse.mp hc),
        trimStart_eq_self h.2, List.reverse_reverse]
    have hplain : StartsPlain (cs ++ back) := by
      rw [StartsPlain, List.head?_append_of_ne_nil cs hcs]
      exact h.1
    rw [trim, trimStart_padded hfront, trimStart_eq_self hplain, hend]

theorem trim_eq_self (h : Trimmed cs) : trim cs = cs := by
  simpa using @trim_padded cs [] [] h (by simp) (by simp)

theorem exists_trimStart (cs : List Char) : ∃ front, cs = front ++ trimStart cs ∧ ∀ c ∈ front, isBlank c = true :=
  ⟨cs.takeWhile isBlank, List.takeWhile_append_dropWhile.symm, fun _ hc => List.mem_takeWhile_imp hc⟩

theorem exists_trim (cs : List Char) : ∃ front back, cs = front ++ (trim cs ++ back) ∧
    (∀ c ∈ front, isBlank c = true) ∧ ∀ c ∈ back, isBlank c = true := by
  obtain ⟨front, hcs, hfront⟩ := exists_trimStart cs
  obtain ⟨back, hback, hblank⟩ := exists_trimStart (trimStart cs).reverse
  have hrest : trimStart cs = trim cs ++ back.reverse := by
    rw [trim, trimEnd_eq_reverse, ← List.reverse_append, ← hback, List.reverse_reverse]
  exact ⟨front, back.reverse, by rw [← hrest, ← hcs], hfront, fun c hc => hblank c (List.mem_reverse.mp hc)⟩

theorem mem_of_mem_trim {c : Char} (h : c ∈ trim cs) : c ∈ cs :=
  (List.dropWhile_suffix isBlank).subset ((List.rdropWhile_prefix isBlank _).subset h)

theorem mem_trimStart {c : Char} (hc : isBlank c = false) (h : c ∈ cs) : c ∈ trimStart cs := by
  rw [← List.takeWhile_append_dropWhile (p := isBlank) (l := cs), List.mem_append] at h
  refine h.resolve_left fun hblank => ?_
  rw [List.mem_takeWhile_imp hblank] at hc
  exact absurd hc (by simp)

theorem mem_trim {c : Char} (hc : isBlank c = false) (h : c ∈ cs) : c ∈ trim cs := by
  rw [trim, trimEnd_eq_reverse, List.mem_reverse]
  exact mem_trimStart hc (List.mem_reverse.mpr (mem_trimStart hc h))

end DirectoryPull.Text
