import DirectoryPull.Text.Numeral
import Mathlib.Algebra.Group.Nat.Defs
import Mathlib.Data.Nat.Digits.Defs

/-!
# Numbers as text

The digits of a number stand for that number, also behind leading zeros. What is read as a decimal number is one
digit or more, and nothing else.
-/

namespace DirectoryPull.Numeral

variable {base n : Nat}

/-! ## One digit -/

theorem value_digit (h : n < 16) : value? (digit n) = some n := by
  have hall : ∀ k < 16, value? (digit k) = some k := by decide
  exact hall n h

theorem isDecimal_digit (h : n < 10) : isDecimal (digit n) = true := by
  have hall : ∀ k < 10, isDecimal (digit k) = true := by decide
  exact hall n h

def extend (base n : Nat) (c : Char) : Option Nat := do
  let d ← value? c
  if d < base then some (n * base + d) else none

theorem extend_digit {d : Nat} (h : d < base) (hbase : base ≤ 16) (n : Nat) :
    extend base n (digit d) = some (n * base + d) := by
  simp [extend, value_digit (Nat.lt_of_lt_of_le h hbase), h]

theorem ofDigits_eq_foldlM {cs : List Char} (h : cs ≠ []) : ofDigits? base cs = cs.foldlM (extend base) 0 := by
  rw [ofDigits?, if_neg (by simpa using h)]
  rfl

/-! ## Digits -/

theorem digits_of_lt (h : n < base) : digits base n = [digit n] := by
  rw [digits, if_pos (Or.inl h)]

theorem digits_of_le (h : base ≤ n) (hbase : 2 ≤ base) :
    digits base n = digits base (n / base) ++ [digit (n % base)] := by
  rw [digits, if_neg (by omega)]

theorem digits_ne_nil (base n : Nat) : digits base n ≠ [] := by
  rw [digits]
  split <;> simp

theorem forall_mem_digits {P : Char → Prop} (hbase : 2 ≤ base) (h : ∀ d < base, P (digit d)) (n : Nat) :
    ∀ c ∈ digits base n, P c := by
  induction n using Nat.strongRecOn with
  | ind n ih =>
    intro c hc
    rcases Nat.lt_or_ge n base with hn | hn
    · rw [digits_of_lt hn, List.mem_singleton] at hc
      exact hc ▸ h n hn
    · rw [digits_of_le hn hbase, List.mem_append, List.mem_singleton] at hc
      rcases hc with hc | rfl
      · exact ih (n / base) (Nat.div_lt_self (by omega) (by omega)) c hc
      · exact h _ (Nat.mod_lt _ (by omega))

theorem foldlM_digits (hlow : 2 ≤ base) (hhigh : base ≤ 16) (n : Nat) :
    (digits base n).foldlM (extend base) 0 = some n := by
  induction n using Nat.strongRecOn with
  | ind n ih =>
    rcases Nat.lt_or_ge n base with hn | hn
    · simp [digits_of_lt hn, extend_digit hn hhigh]
    · have hrest := ih (n / base) (Nat.div_lt_self (by omega) (by omega))
      have hlast := extend_digit (Nat.mod_lt n (by omega : 0 < base)) hhigh (n / base)
      rw [digits_of_le hn hlow, List.foldlM_append, hrest]
      simp [hlast, Nat.div_add_mod']

theorem ofDigits_digits (hlow : 2 ≤ base) (hhigh : base ≤ 16) (n : Nat) :
    ofDigits? base (digits base n) = some n := by
  rw [ofDigits_eq_foldlM (digits_ne_nil base n), foldlM_digits hlow hhigh]

theorem head_digits (hlow : 2 ≤ base) (hhigh : base ≤ 16) (hn : 0 < n) : (digits base n).head? ≠ some (digit 0) := by
  induction n using Nat.strongRecOn with
  | ind n ih =>
    rcases Nat.lt_or_ge n base with hlt | hge
    · intro h
      have hzero : digit n = digit 0 := by simpa [digits_of_lt hlt] using h
      have hvalue := congrArg value? hzero
      rw [value_digit (by omega), value_digit (by omega), Option.some.injEq] at hvalue
      omega
    · rw [digits_of_le hge hlow, List.head?_append, Option.or_of_isSome (by simp [digits_ne_nil])]
      exact ih (n / base) (Nat.div_lt_self hn (by omega)) (Nat.div_pos hge (by omega))

/-! ## Decimal numbers -/

theorem forall_isDecimal_digits (n : Nat) : ∀ c ∈ digits 10 n, isDecimal c = true :=
  forall_mem_digits (by omega) (fun _ hd => isDecimal_digit hd) n

theorem ne_of_isDecimal {c d : Char} (h : isDecimal c = true) (hd : isDecimal d = false) : c ≠ d := by
  rintro rfl
  exact absurd (h.symm.trans hd) (by decide)

theorem toList_decimalInt (n : Int) :
    (decimalInt n).toList = (if n < 0 then ['-'] else []) ++ digits 10 n.natAbs := by
  rw [decimalInt]
  split <;> simp [decimal]

/-! ## Any decimal digits -/

def AreDigits (ds : List Char) : Prop := ds ≠ [] ∧ ∀ c ∈ ds, '0' ≤ c ∧ c ≤ '9'

-- The instance for the digits is named, since one that tries every character may be found too.
instance (ds : List Char) : Decidable (AreDigits ds) :=
  have : Decidable (∀ c ∈ ds, '0' ≤ c ∧ c ≤ '9') := List.decidableBAll _ ds
  inferInstanceAs (Decidable (_ ∧ _))

/-- The number that decimal digits stand for. -/
def decimalValue (ds : List Char) : Nat := Nat.ofDigits 10 (ds.reverse.map fun c => c.toNat - '0'.toNat)

theorem decimalValue_cons (c : Char) (ds : List Char) :
    decimalValue (c :: ds) = (c.toNat - '0'.toNat) * 10 ^ ds.length + decimalValue ds := by
  simp only [decimalValue, List.reverse_cons, List.map_append, List.map_cons, List.map_nil, Nat.ofDigits_append,
    Nat.ofDigits_singleton, List.length_map, List.length_reverse]
  rw [Nat.mul_comm, Nat.add_comm]

theorem extend_ten (n : Nat) (c : Char) :
    extend 10 n c = if '0' ≤ c ∧ c ≤ '9' then some (n * 10 + (c.toNat - '0'.toNat)) else none := by
  have hle : ∀ d : Char, (d ≤ c ↔ d.toNat ≤ c.toNat) ∧ (c ≤ d ↔ c.toNat ≤ d.toNat) := fun _ => ⟨Iff.rfl, Iff.rfl⟩
  simp only [extend, value?, hle, Char.reduceToNat]
  split
  · simp
    omega
  · split
    · simp
      omega
    · split
      · simp
        omega
      · rfl

theorem foldlM_extend_ten {ds : List Char} {m : Nat} (n : Nat) :
    ds.foldlM (extend 10) n = some m ↔
      (∀ c ∈ ds, '0' ≤ c ∧ c ≤ '9') ∧ m = n * 10 ^ ds.length + decimalValue ds := by
  induction ds generalizing n with
  | nil => simp [decimalValue, eq_comm]
  | cons c ds ih =>
    rw [List.foldlM_cons, extend_ten, List.forall_mem_cons]
    split
    · next hc =>
      change ds.foldlM (extend 10) _ = some m ↔ _
      rw [ih, and_iff_right hc, decimalValue_cons, List.length_cons, Nat.pow_succ, Nat.add_mul, Nat.mul_assoc,
        Nat.mul_comm 10, Nat.add_assoc]
    · next hc => simp [hc]

theorem ofDigits_ten_iff {ds : List Char} {n : Nat} :
    ofDigits? 10 ds = some n ↔ AreDigits ds ∧ n = decimalValue ds := by
  by_cases hds : ds = []
  · simp [hds, ofDigits?, AreDigits]
  · rw [ofDigits_eq_foldlM hds, foldlM_extend_ten, AreDigits, Nat.zero_mul, Nat.zero_add, and_iff_right hds]

/-! ## Leading zeros -/

theorem length_digits_le {width : Nat} (hbase : 2 ≤ base) (h : n < base ^ (width + 1)) :
    (digits base n).length ≤ width + 1 := by
  induction width generalizing n with
  | zero => simp [digits_of_lt (by simpa using h)]
  | succ width ih =>
    rcases Nat.lt_or_ge n base with hn | hn
    · simp [digits_of_lt hn]
    · have hdiv : n / base < base ^ (width + 1) := Nat.div_lt_of_lt_mul (by rwa [Nat.pow_succ, Nat.mul_comm] at h)
      simpa [digits_of_le hn hbase] using ih hdiv

theorem length_padded {width : Nat} (hbase : 2 ≤ base) (h : n < base ^ (width + 1)) :
    (padded base (width + 1) n).length = width + 1 := by
  have := length_digits_le hbase h
  simp only [padded, List.length_append, List.length_replicate]
  omega

theorem ofDigits_padded (hlow : 2 ≤ base) (hhigh : base ≤ 16) (width n : Nat) :
    ofDigits? base (padded base width n) = some n := by
  have hzero : extend base 0 (digit 0) = some 0 := by simpa using extend_digit (by omega : 0 < base) hhigh 0
  have hzeros : ∀ k, (List.replicate k (digit 0)).foldlM (extend base) 0 = some 0 := by
    intro k
    induction k with
    | zero => rfl
    | succ k ih => simp [List.replicate_succ, hzero, ih]
  rw [ofDigits_eq_foldlM (by simp [padded, digits_ne_nil]), padded, List.foldlM_append]
  change ((List.replicate _ (digit 0)).foldlM (extend base) 0 >>= _) = _
  rw [hzeros]
  exact foldlM_digits hlow hhigh n

theorem padded_byte (h : n < 256) : padded 16 2 n = [digit (n / 16), digit (n % 16)] := by
  rcases Nat.lt_or_ge n 16 with hn | hn
  · rw [padded, digits_of_lt hn, Nat.div_eq_of_lt hn, Nat.mod_eq_of_lt hn]
    rfl
  · rw [padded, digits_of_le hn (by omega), digits_of_lt (by omega : n / 16 < 16)]
    rfl

end DirectoryPull.Numeral
