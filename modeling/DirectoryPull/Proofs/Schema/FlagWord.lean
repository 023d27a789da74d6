import DirectoryPull.Proofs.Text.Cuts
import DirectoryPull.Proofs.Text.Numerals
import DirectoryPull.Schema.FlagWord

/-!
# Flag words as decimal numbers

What is read is an optional sign and decimal digits, with blanks around. The word has the lowest 32 bits of the number,
if that fits into a signed or an unsigned word; there is none otherwise.
-/

namespace DirectoryPull.FlagWord

theorem inRange_iff (v : Int) : inRange v = true ↔ -0x80000000 ≤ v ∧ v ≤ 0xffffffff := by
  have hlow : Int32.minValue.toInt = -0x80000000 := by decide
  rw [inRange, hlow, Bool.and_eq_true, decide_eq_true_eq, decide_eq_true_eq, UInt32.size]
  omega

theorem number_digits (n : Nat) : number? (Numeral.digits 10 n) = some (n : Int) := by
  have hplain := Numeral.forall_isDecimal_digits n
  unfold number?
  split
  · rename_i ds heq
    exact absurd (hplain '+' (heq ▸ List.mem_cons_self)) (by decide)
  · rename_i ds heq
    exact absurd (hplain '-' (heq ▸ List.mem_cons_self)) (by decide)
  · rw [Numeral.ofDigits_digits (by omega) (by omega)]
    rfl

theorem number_decimalInt (v : Int) : number? (Numeral.decimalInt v).toList = some v := by
  rw [Numeral.toList_decimalInt]
  by_cases hv : v < 0
  · rw [if_pos hv, List.singleton_append, number?, Numeral.ofDigits_digits (by omega) (by omega)]
    change some (-(v.natAbs : Int)) = some v
    rw [Option.some.injEq]
    omega
  · rw [if_neg hv, List.nil_append, number_digits, Int.natAbs_of_nonneg (by omega)]

theorem isBlank_of_isDecimal {c : Char} (h : Numeral.isDecimal c = true) : Text.isBlank c = false := by
  have hcode : 48 ≤ c.toNat ∧ c.toNat ≤ 57 := by
    simpa [Numeral.isDecimal, Char.le_def, UInt32.le_iff_toNat_le] using h
  simp only [Text.isBlank]
  grind

theorem trim_decimalInt (v : Int) : Text.trim (Numeral.decimalInt v).toList = (Numeral.decimalInt v).toList := by
  refine Text.trim_eq_self (Text.trimmed_of_plain fun c hc => ?_)
  rw [Numeral.toList_decimalInt, List.mem_append] at hc
  rcases hc with hsign | hdigit
  · split at hsign
    · rw [List.mem_singleton.mp hsign]
      decide
    · exact absurd hsign (List.not_mem_nil)
  · exact isBlank_of_isDecimal (Numeral.forall_isDecimal_digits v.natAbs c hdigit)

theorem read_decimalInt (v : Int) : read? (Numeral.decimalInt v) = if inRange v then some (ofInt v) else none := by
  rw [read?, trim_decimalInt, number_decimalInt, Option.filter_some]
  split <;> rfl

/-! ## What is read -/

/-- An optional sign and decimal digits, with the number that they stand for. -/
inductive Spelled : List Char → Int → Prop
  | plain {ds : List Char} (hds : Numeral.AreDigits ds) : Spelled ds (Numeral.decimalValue ds)
  | plus {ds : List Char} (hds : Numeral.AreDigits ds) : Spelled ('+' :: ds) (Numeral.decimalValue ds)
  | minus {ds : List Char} (hds : Numeral.AreDigits ds) : Spelled ('-' :: ds) (-(Numeral.decimalValue ds : Int))

/-- The number that a text stands for, with blanks around it. -/
def Denotes (raw : String) (v : Int) : Prop :=
  ∃ front cs back, raw.toList = front ++ (cs ++ back) ∧ (∀ c ∈ front, Text.isBlank c = true) ∧
    (∀ c ∈ back, Text.isBlank c = true) ∧ Spelled cs v

/-- It fits into 32 bits, signed or not. -/
def Fits (v : Int) : Prop := -2 ^ 31 ≤ v ∧ v ≤ 2 ^ 32 - 1

variable {cs : List Char} {raw : String} {v : Int}

theorem ofDigits_map_iff {f : Nat → Int} :
    (Numeral.ofDigits? 10 cs).map f = some v ↔ Numeral.AreDigits cs ∧ v = f (Numeral.decimalValue cs) := by
  rw [Option.map_eq_some_iff]
  simp only [Numeral.ofDigits_ten_iff]
  constructor
  · rintro ⟨n, ⟨hds, rfl⟩, rfl⟩
    exact ⟨hds, rfl⟩
  · rintro ⟨hds, rfl⟩
    exact ⟨_, ⟨hds, rfl⟩, rfl⟩

theorem not_areDigits_sign {c : Char} (h : ¬ ('0' ≤ c ∧ c ≤ '9')) (ds : List Char) : ¬ Numeral.AreDigits (c :: ds) :=
  fun hds => h (hds.2 c List.mem_cons_self)

theorem number_eq_some_iff : number? cs = some v ↔ Spelled cs v := by
  constructor
  · intro h
    unfold number? at h
    split at h
    · obtain ⟨hds, rfl⟩ := ofDigits_map_iff.mp h
      exact .plus hds
    · obtain ⟨hds, rfl⟩ := ofDigits_map_iff.mp h
      exact .minus hds
    · obtain ⟨hds, rfl⟩ := ofDigits_map_iff.mp h
      exact .plain hds
  · intro h
    cases h with
    | plus hds | minus hds => exact ofDigits_map_iff.mpr ⟨hds, rfl⟩
    | plain hds =>
      unfold number?
      split
      · exact absurd hds (not_areDigits_sign (by decide) _)
      · exact absurd hds (not_areDigits_sign (by decide) _)
      · exact ofDigits_map_iff.mpr ⟨hds, rfl⟩

theorem trimmed_of_spelled (h : Spelled cs v) : Text.Trimmed cs := by
  have hplain : ∀ {ds}, Numeral.AreDigits ds → ∀ c ∈ ds, Text.isBlank c = false :=
    fun hds c hc => isBlank_of_isDecimal (by simpa [Numeral.isDecimal] using hds.2 c hc)
  apply Text.trimmed_of_plain
  cases h with
  | plain hds => exact hplain hds
  | plus hds | minus hds => exact List.forall_mem_cons.mpr ⟨by decide, hplain hds⟩

theorem denotes_iff : Denotes raw v ↔ Spelled (Text.trim raw.toList) v := by
  constructor
  · rintro ⟨front, cs, back, hraw, hfront, hback, hcs⟩
    rwa [hraw, Text.trim_padded (trimmed_of_spelled hcs) hfront hback]
  · intro h
    obtain ⟨front, back, hraw, hfront, hback⟩ := Text.exists_trim raw.toList
    exact ⟨front, _, back, hraw, hfront, hback, h⟩

theorem Denotes.unique {v' : Int} (h : Denotes raw v) (h' : Denotes raw v') : v = v' := by
  rw [denotes_iff, ← number_eq_some_iff] at h h'
  exact Option.some.inj (h.symm.trans h')

theorem toNat_ofInt (v : Int) : ((ofInt v).toNat : Int) = v % 2 ^ 32 := by
  rw [ofInt, UInt32.toNat_ofNat', UInt32.size]
  omega

theorem read_eq_some_iff {word : UInt32} :
    read? raw = some word ↔ ∃ v, Denotes raw v ∧ Fits v ∧ (word.toNat : Int) = v % 2 ^ 32 := by
  have hword : ∀ v, ofInt v = word ↔ (word.toNat : Int) = v % 2 ^ 32 := by
    intro v
    rw [← toNat_ofInt, Int.natCast_inj, UInt32.toNat_inj, eq_comm]
  simp only [read?, Option.map_eq_some_iff, Option.filter_eq_some_iff, number_eq_some_iff, denotes_iff, inRange_iff,
    hword, Fits, and_assoc]
  rfl

theorem exists_read_iff : (∃ word, read? raw = some word) ↔ ∃ v, Denotes raw v ∧ Fits v := by
  simp only [read_eq_some_iff]
  constructor
  · rintro ⟨word, v, hdenotes, hfits, -⟩
    exact ⟨v, hdenotes, hfits⟩
  · rintro ⟨v, hdenotes, hfits⟩
    exact ⟨ofInt v, v, hdenotes, hfits, toNat_ofInt v⟩

theorem read_spelling {word : UInt32}
    (h : raw = Numeral.decimalInt word.toNat ∨ raw = Numeral.decimalInt word.toInt32.toInt) :
    read? raw = some word := by
  have hbound := word.toNat_lt
  have hsigned : word.toInt32.toInt = (word.toNat : Int).bmod (2 ^ 32) := by
    rw [← Int32.toInt_toBitVec, BitVec.toInt_eq_toNat_bmod]
    rfl
  have hread : ∀ v : Int, Fits v → (word.toNat : Int) = v % 2 ^ 32 → read? (Numeral.decimalInt v) = some word := by
    intro v hfits hword
    rw [read_decimalInt, if_pos ((inRange_iff v).mpr hfits), Option.some.injEq, ← UInt32.toNat_inj, ← Int.natCast_inj,
      toNat_ofInt, hword]
  rcases h with rfl | rfl
  · refine hread _ ?_ (by omega)
    unfold Fits
    omega
  · rw [hsigned, Int.bmod_def]
    refine hread _ ?_ (by omega)
    unfold Fits
    omega

/-! ## The words of a record -/

variable {e : SearchEntry} {name : String}

theorem ofEntry_ok_iff (h : e.first name = some raw) {word : UInt32} :
    ofEntry e name = .ok word ↔ read? raw = some word := by
  unfold ofEntry
  cases hread : read? raw <;> simp [h, hread]

theorem ofEntry_error_iff (h : e.first name = some raw) :
    ofEntry e name = .error (.malformed e.dn s!"{name} is not a 32-bit integer: {raw}") ↔
      ∀ word, read? raw ≠ some word := by
  unfold ofEntry
  cases hread : read? raw <;> simp [h, hread]

/-- **Flag words.** -/
theorem ofEntry_exact (h : e.first name = some raw) :
    ((∃ word, ofEntry e name = .ok word) ↔ ∃ v, Denotes raw v ∧ Fits v) ∧
    (∀ v word, Denotes raw v ∧ ofEntry e name = .ok word → (word.toNat : Int) = v % 2 ^ 32) ∧
    (ofEntry e name = .error (.malformed e.dn s!"{name} is not a 32-bit integer: {raw}") ↔
      ¬ ∃ v, Denotes raw v ∧ Fits v) ∧
    ∀ word : UInt32, raw = Numeral.decimalInt word.toNat ∨ raw = Numeral.decimalInt word.toInt32.toInt →
      ofEntry e name = .ok word := by
  rw [← exists_read_iff]
  refine ⟨exists_congr fun _ => ofEntry_ok_iff h, ?value, ?error, ?spelled⟩
  case value =>
    rintro v word ⟨hdenotes, hok⟩
    obtain ⟨v', hdenotes', -, hword⟩ := read_eq_some_iff.mp ((ofEntry_ok_iff h).mp hok)
    rw [hdenotes.unique hdenotes', hword]
  case error =>
    rw [ofEntry_error_iff h, not_exists]
  case spelled =>
    intro word hraw
    exact (ofEntry_ok_iff h).mpr (read_spelling hraw)

/-- The lowest number that fits, with a zero in front and blanks on both sides. -/
def paddedText : String := "\u00a0-02147483648\n"

def paddedEntry : SearchEntry := (SearchEntry.ofDn "CN=cn").add "SystemFlags" paddedText

theorem ofEntry_exact_padded :
    paddedEntry.first "systemFlags" = some paddedText ∧ Denotes paddedText (-2147483648) ∧
      ofEntry paddedEntry "systemFlags" = .ok 0x80000000 := by
  have hfirst : paddedEntry.first "systemFlags" = some paddedText := by decide
  have hdenotes : Denotes paddedText (-2147483648) :=
    ⟨['\u00a0'], "-02147483648".toList, ['\n'], by decide, List.forall_mem_singleton.mpr (by decide),
      List.forall_mem_singleton.mpr (by decide), .minus (by decide)⟩
  obtain ⟨hok, hvalue, -⟩ := ofEntry_exact hfirst
  obtain ⟨word, hword⟩ := hok.mpr ⟨_, hdenotes, by decide, by decide⟩
  have heq : (word.toNat : Int) = (0x80000000 : UInt32).toNat := hvalue _ word ⟨hdenotes, hword⟩
  rw [hword, UInt32.toNat_inj.mp (Int.natCast_inj.mp heq)]
  exact ⟨hfirst, hdenotes, rfl⟩

end DirectoryPull.FlagWord
