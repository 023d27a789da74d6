import DirectoryPull.Json.Codec
import DirectoryPull.Proofs.Json.Tokens

/-!
# Written values as trees

Putting the tokens of a written value together gives its tree, whole, and as deep as the text nests.
-/

namespace DirectoryPull.Json

open Draft

/-! ## Trees -/

mutual

def draft : Json → Draft
  | null => .null
  | bool b => .bool b
  | int n => .number (Literal.ofInt n).value?
  | string s => .string (some s)
  | array items => .array (itemDrafts items) true
  | object members => .object (memberDrafts members) true

def itemDrafts : List Json → List Draft
  | [] => []
  | j :: js => draft j :: itemDrafts js

def memberDrafts : List (String × Json) → List (Option String × Draft)
  | [] => []
  | (name, j) :: ms => (some name, draft j) :: memberDrafts ms

end

theorem run_cons {s s' : Draft.State} {t : Token} (h : step s t = some s') (ts : List Token) :
    run s (t :: ts) = run s' ts := by
  cases s <;> simp [run, h]

theorem run_firstItem (j : Json) (fs : List Frame) (ts : List Token) :
    run (.firstItem fs) (j.toTokens ++ ts) = run (.value (.items [] :: fs)) (j.toTokens ++ ts) := by
  cases j <;> rfl

theorem run_firstName (name : String) (j : Json) (ms : List (String × Json)) (fs : List Frame) (ts : List Token) :
    run (.firstName fs) (memberTokens ((name, j) :: ms) ++ ts) =
      run (.name [] fs) (memberTokens ((name, j) :: ms) ++ ts) := by
  cases ms <;> rfl

theorem run_firstItems (j : Json) (js : List Json) (fs : List Frame) (ts : List Token) :
    run (.firstItem fs) (itemTokens (j :: js) ++ ts) = run (.value (.items [] :: fs)) (itemTokens (j :: js) ++ ts) := by
  cases js with
  | nil => exact run_firstItem j fs ts
  | cons k js => rw [itemTokens.eq_3 j _ (by simp), List.append_assoc, run_firstItem]

mutual

theorem run_toTokens : ∀ (j : Json) (fs : List Frame) (ts : List Token),
    run (.value fs) (j.toTokens ++ ts) = run (deliver j.draft fs) ts
  | null, _, _ => rfl
  | bool _, _, _ => rfl
  | int _, _, _ => rfl
  | string _, _, _ => rfl
  | array [], _, _ => rfl
  | array (j :: js), fs, ts => by
    have htokens : (array (j :: js)).toTokens ++ ts = .arrayStart :: (itemTokens (j :: js) ++ .arrayEnd :: ts) := by
      simp [toTokens]
    rw [htokens, run_cons rfl, run_firstItems, run_itemTokens (j :: js) (by simp)]
    rfl
  | object [], _, _ => rfl
  | object ((name, j) :: ms), fs, ts => by
    have htokens : (object ((name, j) :: ms)).toTokens ++ ts =
        .objectStart :: (memberTokens ((name, j) :: ms) ++ .objectEnd :: ts) := by simp [toTokens]
    rw [htokens, run_cons rfl, run_firstName, run_memberTokens ((name, j) :: ms) (by simp)]
    rfl

theorem run_itemTokens : ∀ (js : List Json), js ≠ [] → ∀ (ds : List Draft) (fs : List Frame) (ts : List Token),
    run (.value (.items ds :: fs)) (itemTokens js ++ .arrayEnd :: ts) =
      run (deliver (.array (ds.reverse ++ itemDrafts js) true) fs) ts
  | [], hne, _, _, _ => absurd rfl hne
  | [j], _, ds, fs, ts => by
    rw [itemTokens, run_toTokens j, deliver, run_cons rfl]
    simp [itemDrafts]
  | j :: k :: js, _, ds, fs, ts => by
    rw [itemTokens.eq_3 j _ (by simp), List.append_assoc, List.cons_append, run_toTokens j, deliver, run_cons rfl,
      run_itemTokens (k :: js) (by simp) (j.draft :: ds)]
    simp [itemDrafts]

theorem run_memberTokens : ∀ (ms : List (String × Json)), ms ≠ [] → ∀ (ds : List (Option String × Draft))
    (fs : List Frame) (ts : List Token),
    run (.name ds fs) (memberTokens ms ++ .objectEnd :: ts) =
      run (deliver (.object (ds.reverse ++ memberDrafts ms) true) fs) ts
  | [], hne, _, _, _ => absurd rfl hne
  | [(name, j)], _, ds, fs, ts => by
    rw [memberTokens, List.cons_append, List.cons_append, run_cons rfl, run_cons rfl, run_toTokens j, deliver,
      run_cons rfl]
    simp [memberDrafts]
  | (name, j) :: m :: ms, _, ds, fs, ts => by
    have htokens : memberTokens ((name, j) :: m :: ms) ++ .objectEnd :: ts =
        .string (some name) :: .colon :: (toTokens j ++ .comma :: (memberTokens (m :: ms) ++ .objectEnd :: ts)) := by
      rw [memberTokens.eq_3 name j _ (by simp)]
      simp
    rw [htokens, run_cons rfl, run_cons rfl, run_toTokens j, deliver, run_cons rfl,
      run_memberTokens (m :: ms) (by simp) ((some name, j.draft) :: ds)]
    simp [memberDrafts]

end

theorem ofText_text (j : Json) : Draft.ofText j.text = (j.draft, true) := by
  have hrun := run_toTokens j [] []
  rw [List.append_nil] at hrun
  rw [Draft.ofText, tokens_text, hrun]
  rfl

/-! ## Nesting -/

/-- The most containers that are open at once, given how many are open at the start. -/
def deepest (opened : Nat) : List Token → Nat
  | [] => opened
  | .arrayStart :: ts | .objectStart :: ts => deepest (opened + 1) ts
  | .arrayEnd :: ts | .objectEnd :: ts => max opened (deepest (opened - 1) ts)
  | _ :: ts => deepest opened ts

theorem deepest_comma (n : Nat) (ts : List Token) : deepest n (.comma :: ts) = deepest n ts := rfl

theorem deepest_name (n : Nat) (name : Option String) (ts : List Token) :
    deepest n (.string name :: .colon :: ts) = deepest n ts := rfl

/-- How deep the brackets and braces of a text nest. -/
def nesting (text : String) : Nat := deepest 0 (tokens text.toList)

theorem le_deepest (n : Nat) (ts : List Token) : n ≤ deepest n ts := by
  fun_induction deepest n ts <;> omega

mutual

theorem deepest_toTokens : ∀ (j : Json) (n : Nat) (ts : List Token),
    deepest n (j.toTokens ++ ts) = max (n + j.depth) (deepest n ts)
  | null, n, ts => (Nat.max_eq_right (le_deepest n ts)).symm
  | bool _, n, ts => (Nat.max_eq_right (le_deepest n ts)).symm
  | int _, n, ts => (Nat.max_eq_right (le_deepest n ts)).symm
  | string _, n, ts => (Nat.max_eq_right (le_deepest n ts)).symm
  | array items, n, ts => by
    have htokens : (array items).toTokens ++ ts = .arrayStart :: (itemTokens items ++ .arrayEnd :: ts) := by
      simp [toTokens]
    rw [htokens, deepest, deepest_itemTokens items, deepest, Nat.add_sub_cancel, depth]
    have := le_deepest n ts
    omega
  | object members, n, ts => by
    have htokens : (object members).toTokens ++ ts = .objectStart :: (memberTokens members ++ .objectEnd :: ts) := by
      simp [toTokens]
    rw [htokens, deepest, deepest_memberTokens members, deepest, Nat.add_sub_cancel, depth]
    have := le_deepest n ts
    omega

theorem deepest_itemTokens : ∀ (js : List Json) (n : Nat) (ts : List Token),
    deepest n (itemTokens js ++ ts) = max (n + itemsDepth js) (deepest n ts)
  | [], n, ts => (Nat.max_eq_right (le_deepest n ts)).symm
  | [j], n, ts => by
    rw [itemTokens, deepest_toTokens j, itemsDepth, itemsDepth]
    omega
  | j :: k :: js, n, ts => by
    rw [itemTokens.eq_3 j _ (by simp), List.append_assoc, List.cons_append, deepest_toTokens j, deepest_comma,
      deepest_itemTokens (k :: js), itemsDepth.eq_2 j]
    omega

theorem deepest_memberTokens : ∀ (ms : List (String × Json)) (n : Nat) (ts : List Token),
    deepest n (memberTokens ms ++ ts) = max (n + membersDepth ms) (deepest n ts)
  | [], n, ts => (Nat.max_eq_right (le_deepest n ts)).symm
  | [(name, j)], n, ts => by
    rw [memberTokens, List.cons_append, List.cons_append, deepest_name, deepest_toTokens j, membersDepth, membersDepth]
    omega
  | (name, j) :: m :: ms, n, ts => by
    have htokens : memberTokens ((name, j) :: m :: ms) ++ ts =
        .string (some name) :: .colon :: (toTokens j ++ .comma :: (memberTokens (m :: ms) ++ ts)) := by
      rw [memberTokens.eq_3 name j _ (by simp)]
      simp
    rw [htokens, deepest_name, deepest_toTokens j, deepest_comma, deepest_memberTokens (m :: ms),
      membersDepth.eq_2 name j]
    omega

end

theorem nesting_text (j : Json) : nesting j.text = j.depth := by
  have hdeepest := deepest_toTokens j 0 []
  rw [List.append_nil, deepest] at hdeepest
  rw [nesting, tokens_text, hdeepest]
  omega

theorem depth_lt_object {name : String} {j : Json} {ms : List (String × Json)} (h : (name, j) ∈ ms) :
    j.depth < (object ms).depth := by
  rw [depth, Nat.add_comm, Nat.lt_succ_iff]
  induction ms with
  | nil => exact absurd h List.not_mem_nil
  | cons m ms ih =>
    rcases List.mem_cons.mp h with rfl | h
    · exact Nat.le_max_left _ _
    · exact Nat.le_trans (ih h) (Nat.le_max_right _ _)

end DirectoryPull.Json
