import DirectoryPull.Json.Tagged
import DirectoryPull.Proofs.Json.Drafts

/-!
# Codecs that read what they write

What a codec writes it reads back, as long as the text nests no deeper than a reader goes. The rules here follow
the ways in which codecs are put together.
-/

namespace DirectoryPull.Json

variable {α β : Type}

/-! ## Results -/

theorem mapError_ok_iff {ε δ : Type} {f : ε → δ} {x : Except ε α} {a : α} : x.mapError f = .ok a ↔ x = .ok a := by
  cases x with
  | error e => constructor <;> (intro h; contradiction)
  | ok b =>
    constructor <;> intro h
    · rw [Except.ok.inj h]
    · rw [Except.ok.inj h]
      rfl

theorem bind_ok_iff {x : Except Problem α} {f : α → Except Problem β} {b : β} :
    x >>= f = .ok b ↔ ∃ a, x = .ok a ∧ f a = .ok b := by
  cases x with
  | error e =>
    constructor
    · intro h
      contradiction
    · rintro ⟨a, h, -⟩
      contradiction
  | ok a =>
    constructor
    · exact fun h => ⟨a, rfl, h⟩
    · rintro ⟨a', ha, h⟩
      rwa [← Except.ok.inj ha] at h

/-! ## Depth budgets -/

/-- A value whose text nests to a depth, read with a budget: beyond it the text breaks off. -/
def within (budget depth : Nat) (a : α) : Except Problem α := if depth ≤ budget then .ok a else .error .malformed

theorem within_zero (n : Nat) (a : α) : within n 0 a = .ok a := if_pos (Nat.zero_le n)

theorem within_map (n d : Nat) (a : α) (f : α → β) : f <$> within n d a = within n d (f a) := by
  unfold within
  split <;> rfl

theorem within_bind (n d d' : Nat) (a : α) (f : α → β) :
    (within n d a >>= fun a => within n d' (f a)) = within n (max d d') (f a) := by
  unfold within
  by_cases h : d ≤ n
  · rw [if_pos h]
    -- What is left to compare are the two conditions.
    change (if d' ≤ n then _ else _) = _
    congr 1
    exact propext (by omega)
  · rw [if_neg h, if_neg (by omega)]
    rfl

theorem inside_within (n d : Nat) (a : α) : (inside n >>= fun m => within m d a) = within n (1 + d) a := by
  cases n with
  | zero => rw [within, if_neg (by omega)]; rfl
  | succ n =>
    change within n d a = _
    unfold within
    congr 1
    exact propext (by omega)

namespace Codec

/-! ## The law -/

/-- Under a budget, what is written is read back unless it nests deeper. -/
def ExactAt (n : Nat) (c : Codec α) : Prop := ∀ a, c.decode n (c.encode a).draft = within n (c.encode a).depth a

def Exact (c : Codec α) : Prop := ∀ n, c.ExactAt n

theorem read_write {c : Codec α} (h : c.ExactAt maxDepth) (a : α) :
    c.read (c.write a) = within maxDepth (nesting (c.write a)) a := by
  rw [read, write, ofText_text, nesting_text]
  change (c.decode maxDepth _ >>= fun a => pure a) = _
  rw [h a]
  exact bind_pure _

theorem read_ok_iff {c : Codec α} {text : String} {a : α} :
    c.read text = .ok a ↔
      c.decode maxDepth (Draft.ofText text).1 = .ok a ∧ (Draft.ofText text).2 = true := by
  unfold read
  simp only [bind_ok_iff]
  cases (Draft.ofText text).2 with
  | false =>
    constructor
    · rintro ⟨a, -, h⟩
      contradiction
    · rintro ⟨-, h⟩
      contradiction
  | true =>
    rw [and_iff_left rfl]
    constructor
    · rintro ⟨a', ha, h⟩
      rwa [← Except.ok.inj h]
    · exact fun h => ⟨a, h, rfl⟩

theorem read_refine_ok_iff {c : Codec α} {toRaw : β → α} {ofRaw : α → Except String β} {text : String} {b : β} :
    (c.refine toRaw ofRaw).read text = .ok b ↔ ∃ raw, c.read text = .ok raw ∧ ofRaw raw = .ok b := by
  have hdecode : ∀ d, (c.refine toRaw ofRaw).decode maxDepth d = .ok b ↔
      ∃ raw, c.decode maxDepth d = .ok raw ∧ ofRaw raw = .ok b := by
    intro d
    unfold refine
    dsimp only
    simp only [bind_ok_iff, mapError_ok_iff]
  simp only [read_ok_iff, hdecode]
  constructor
  · rintro ⟨⟨raw, hraw, hrule⟩, hentire⟩
    exact ⟨raw, ⟨hraw, hentire⟩, hrule⟩
  · rintro ⟨raw, ⟨hraw, hentire⟩, hrule⟩
    exact ⟨⟨raw, hraw, hrule⟩, hentire⟩

/-- Codecs that are exact and never nest deeper than a bound. -/
structure Flat (k : Nat) (c : Codec α) : Prop where
  exact : c.Exact
  shallow : ∀ a, (c.encode a).depth ≤ k

theorem Flat.read_write {c : Codec α} {k : Nat} (h : c.Flat k) (hk : k ≤ maxDepth) (a : α) :
    c.read (c.write a) = .ok a := by
  rw [Codec.read_write (h.exact _) a, write, nesting_text, within, if_pos (Nat.le_trans (h.shallow a) hk)]

/-! ## Single values -/

theorem bool_flat (k : Nat) : bool.Flat k := ⟨fun n b => (within_zero n b).symm, fun _ => Nat.zero_le k⟩

theorem string_flat (k : Nat) : string.Flat k := ⟨fun n s => (within_zero n s).symm, fun _ => Nat.zero_le k⟩

theorem digitValue_digit {d : Nat} (h : d < 10) : Literal.digitValue (Numeral.digit d) = d := by
  have hall : ∀ d < 10, Literal.digitValue (Numeral.digit d) = d := by decide
  exact hall d h

theorem wholeValue_digits (n : Nat) : Literal.wholeValue (Numeral.digits 10 n) = n := by
  induction n using Nat.strongRecOn with
  | ind n ih =>
    rcases Nat.lt_or_ge n 10 with hn | hn
    · simp [Numeral.digits_of_lt hn, Literal.wholeValue, digitValue_digit hn]
    · have hrest := ih (n / 10) (Nat.div_lt_self (by omega) (by omega))
      rw [Literal.wholeValue] at hrest
      rw [Numeral.digits_of_le hn (by omega), Literal.wholeValue, List.foldl_append, hrest, List.foldl_cons,
        List.foldl_nil, digitValue_digit (Nat.mod_lt n (by omega)), Nat.div_add_mod']

theorem value_ofInt {n : Int} (hlow : Int64.minValue.toInt ≤ n) (hhigh : n < UInt64.size) :
    (Literal.ofInt n).value? = some (.integer n) := by
  have hmin : Int64.minValue.toInt = -(UInt64.size / 2) := rfl
  simp only [Literal.value?, Literal.ofInt, wholeValue_digits, Option.isSome_none, Bool.or_self,
    Bool.false_eq_true, if_false, decide_eq_true_eq, Bool.or_eq_true]
  by_cases hn : n < 0
  · rw [if_pos hn, if_neg (by omega)]
    congr 2
    omega
  · rw [if_neg hn, if_pos (by omega)]
    congr 2
    omega

theorem integer_flat {name : String} {low high : Int} {toInt : α → Int} {ofInt : Int → α} (k : Nat)
    (hrange : ∀ a, low ≤ toInt a ∧ toInt a ≤ high) (hback : ∀ a, ofInt (toInt a) = a)
    (hlow : Int64.minValue.toInt ≤ low) (hhigh : high < UInt64.size) : (integer name low high toInt ofInt).Flat k := by
  refine ⟨fun n a => ?_, fun _ => Nat.zero_le k⟩
  obtain ⟨h, h'⟩ := hrange a
  have hvalue : (Literal.ofInt (toInt a)).value? = some (.integer (toInt a)) := value_ofInt (by omega) (by omega)
  change (integer name low high toInt ofInt).decode n (.number (Literal.ofInt (toInt a)).value?) = within n 0 a
  rw [within_zero, hvalue]
  change (if low ≤ toInt a ∧ toInt a ≤ high then Except.ok (ofInt (toInt a)) else _) = Except.ok a
  rw [if_pos ⟨h, h'⟩, hback]

theorem u8_flat (k : Nat) : u8.Flat k :=
  integer_flat k (fun a => by have := a.toNat_lt; simp; omega) (fun a => by simp) (by decide) (by decide)

theorem u32_flat (k : Nat) : u32.Flat k :=
  integer_flat k (fun a => by have := a.toNat_lt; simp; omega) (fun a => by simp) (by decide) (by decide)

theorem u64_flat (k : Nat) : u64.Flat k :=
  integer_flat k (fun a => by have := a.toNat_lt; simp; omega) (fun a => by simp) (by decide) (by decide)

theorem i64_flat (k : Nat) : i64.Flat k :=
  integer_flat k (fun a => ⟨Int64.minValue_le_toInt a, Int64.toInt_le a⟩) (fun a => by simp) (by decide) (by decide)

theorem spelled_flat {wanted : String} {write : α → String} {read : String → Except String α} (k : Nat)
    (h : ∀ a, read (write a) = .ok a) : (spelled wanted write read).Flat k := by
  refine ⟨fun n a => ?_, fun _ => Nat.zero_le k⟩
  change ((read (write a)).mapError _ : Except Problem α) = within n 0 a
  rw [h, within_zero]
  rfl

/-! ## Values made of others -/

theorem refine_flat {c : Codec α} {k : Nat} {toRaw : β → α} {ofRaw : α → Except String β} (hc : c.Flat k)
    (h : ∀ b, ofRaw (toRaw b) = .ok b) : (c.refine toRaw ofRaw).Flat k := by
  refine ⟨fun n b => ?_, fun b => hc.shallow (toRaw b)⟩
  change (c.decode n (c.encode (toRaw b)).draft >>= fun raw => (ofRaw raw).mapError _) =
    within n (c.encode (toRaw b)).depth b
  rw [hc.exact n (toRaw b)]
  unfold within
  split
  · change (ofRaw (toRaw b)).mapError _ = Except.ok b
    rw [h]
    rfl
  · rfl

theorem convert_exactAt {c : Codec α} {n : Nat} {toRaw : β → α} {ofRaw : α → β} (hc : c.ExactAt n)
    (h : ∀ b, ofRaw (toRaw b) = b) : (c.convert toRaw ofRaw).ExactAt n := by
  intro b
  change ofRaw <$> c.decode n (c.encode (toRaw b)).draft = within n (c.encode (toRaw b)).depth b
  rw [hc, within_map, h]

theorem convert_flat {c : Codec α} {k : Nat} {toRaw : β → α} {ofRaw : α → β} (hc : c.Flat k)
    (h : ∀ b, ofRaw (toRaw b) = b) : (c.convert toRaw ofRaw).Flat k :=
  ⟨fun n => convert_exactAt (hc.exact n) h, fun b => hc.shallow (toRaw b)⟩

/-- Null is what stands for no value. -/
def NeverNull (c : Codec α) : Prop := ∀ a, c.encode a ≠ .null

theorem option_decode {c : Codec α} (n : Nat) {d : Draft} (h : d ≠ .null) :
    c.option.decode n d = some <$> c.decode n d := by
  cases d with
  | null => exact absurd rfl h
  | _ => rfl

theorem option_exactAt {c : Codec α} {n : Nat} (hc : c.ExactAt n) (hnull : c.NeverNull) : c.option.ExactAt n := by
  intro o
  cases o with
  | none => exact (within_zero n none).symm
  | some a =>
    have hdraft : (c.encode a).draft ≠ .null := by
      have hne := hnull a
      cases hj : c.encode a <;> simp_all [draft]
    change c.option.decode n (c.encode a).draft = within n (c.encode a).depth (some a)
    rw [option_decode n hdraft, hc a, within_map]

theorem option_flat {c : Codec α} {k : Nat} (hc : c.Flat k) (hnull : c.NeverNull) : c.option.Flat k := by
  refine ⟨fun n => option_exactAt (hc.exact n) hnull, fun o => ?_⟩
  cases o with
  | none => exact Nat.zero_le k
  | some a => exact hc.shallow a

theorem mapM_decode {c : Codec α} {n : Nat} (hc : c.ExactAt n) (as : List α) :
    (itemDrafts (as.map c.encode)).mapM (c.decode n) = within n (itemsDepth (as.map c.encode)) as := by
  induction as with
  | nil => exact (within_zero n []).symm
  | cons a as ih =>
    rw [List.map_cons, itemDrafts, itemsDepth, List.mapM_cons, ih, hc a]
    change (within n _ a >>= fun a => (a :: ·) <$> within n _ as) = _
    simp only [within_map]
    exact within_bind n _ _ a (· :: as)

theorem list_exact {c : Codec α} (hc : c.Exact) : c.list.Exact := by
  intro n as
  change (inside n >>= fun m => (itemDrafts (as.map c.encode)).mapM (c.decode m) >>= fun as => pure as) = _
  simp only [bind_pure, mapM_decode (hc _)]
  exact inside_within n _ as

theorem itemsDepth_map {c : Codec α} {k : Nat} (h : ∀ a, (c.encode a).depth ≤ k) (as : List α) :
    itemsDepth (as.map c.encode) ≤ k := by
  induction as with
  | nil => exact Nat.zero_le k
  | cons a as ih => exact Nat.max_le.mpr ⟨h a, ih⟩

theorem list_flat {c : Codec α} {k : Nat} (hc : c.Flat k) : c.list.Flat (k + 1) := by
  refine ⟨list_exact hc.exact, fun as => ?_⟩
  have hitems := itemsDepth_map hc.shallow as
  change 1 + itemsDepth (as.map c.encode) ≤ k + 1
  omega

theorem tagged_flat {variants : List (Variant α)} {encode : α → String × Json} {k : Nat}
    (h : ∀ a, ∃ v, variants.find? (·.tag = (encode a).1) = some v ∧
      (∀ n, v.decode n (encode a).2.draft = within n (encode a).2.depth a) ∧ (encode a).2.depth ≤ k) :
    (tagged variants encode).Flat (k + 1) := by
  refine ⟨fun n a => ?_, fun a => ?_⟩
  · obtain ⟨v, hv, hdecode, -⟩ := h a
    have hvariant : variantOf variants (encode a).1 = .ok v := by rw [variantOf, hv]
    change (inside n >>= fun m => variantOf variants (encode a).1 >>= fun v =>
      v.decode m (encode a).2.draft >>= fun a => pure a) = within n (1 + max (encode a).2.depth 0) a
    rw [hvariant, Nat.max_zero]
    change (inside n >>= fun m => v.decode m (encode a).2.draft >>= fun a => pure a) = _
    simp only [bind_pure, hdecode]
    exact inside_within n _ a
  · obtain ⟨v, -, -, hdepth⟩ := h a
    change 1 + max (encode a).2.depth 0 ≤ k + 1
    omega

end Codec

end DirectoryPull.Json
