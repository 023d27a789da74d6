import DirectoryPull.Guid.Reader
import DirectoryPull.Proofs.Text.Cuts
import DirectoryPull.Proofs.Text.Numerals

/-!
# Identifiers and their text

The text of an identifier is the second of the accepted forms, and it is read as the identifier that was written.
-/

namespace DirectoryPull.Guid

/-! ## Bytes as digits -/

theorem hexPairs_cons (b : UInt8) (bs : List UInt8) :
    hexPairs (b :: bs) = Numeral.digit (b.toNat / 16) :: Numeral.digit (b.toNat % 16) :: hexPairs bs := by
  simp [hexPairs, Numeral.padded_byte b.toNat_lt]

theorem hexPairs_append (as bs : List UInt8) : hexPairs (as ++ bs) = hexPairs as ++ hexPairs bs := by
  simp [hexPairs]

theorem length_hexPairs (bs : List UInt8) : (hexPairs bs).length = 2 * bs.length := by
  induction bs with
  | nil => rfl
  | cons b bs ih => simp only [hexPairs_cons, List.length_cons, ih]; omega

theorem bytesOfHex_hexPairs (bs : List UInt8) : bytesOfHex? (hexPairs bs) = some bs := by
  induction bs with
  | nil => rfl
  | cons b bs ih =>
    have hb := b.toNat_lt
    have hbyte : UInt8.ofNat (16 * (b.toNat / 16) + b.toNat % 16) = b := by
      rw [Nat.div_add_mod, UInt8.ofNat_toNat]
    rw [hexPairs_cons, bytesOfHex?, Numeral.value_digit (by omega), Numeral.value_digit (by omega), ih]
    exact congrArg (fun x => some (x :: bs)) hbyte

theorem isHex_of_bytesOfHex {cs : List Char} {bs : List UInt8} (h : bytesOfHex? cs = some bs) :
    ∀ c ∈ cs, Numeral.isHex c = true := by
  fun_induction bytesOfHex? cs generalizing bs with
  | case1 => simp
  | case2 => simp at h
  | case3 a b cs ih =>
    simp only [Option.bind_eq_bind, Option.bind_eq_some_iff] at h
    obtain ⟨high, hhigh, low, hlow, bytes, hbytes, -⟩ := h
    intro c hc
    rcases List.mem_cons.mp hc with rfl | hc
    · simp [Numeral.isHex, hhigh]
    rcases List.mem_cons.mp hc with rfl | hc
    · simp [Numeral.isHex, hlow]
    · exact ih hbytes c hc

theorem hyphen_not_mem_hexPairs (bs : List UInt8) : '-' ∉ hexPairs bs := by
  intro h
  exact absurd (isHex_of_bytesOfHex (bytesOfHex_hexPairs bs) _ h) (by decide)

theorem ofDigits_hexPairs (g : Guid) : ofDigits? (hexPairs g.bytes) = some g := by
  simp [ofDigits?, bytesOfHex_hexPairs, ofBytes?, g.size]

/-! ## Groups -/

def groups (g : Guid) : List (List Char) :=
  [hexPairs (g.bytes.take 4), hexPairs ((g.bytes.drop 4).take 2), hexPairs ((g.bytes.drop 6).take 2),
    hexPairs ((g.bytes.drop 8).take 2), hexPairs (g.bytes.drop 10)]

theorem split_chars (g : Guid) : Text.split '-' g.chars = g.groups := by
  simp only [chars, groups, Text.split_append (hyphen_not_mem_hexPairs _),
    Text.split_eq_singleton (hyphen_not_mem_hexPairs _)]

theorem lengths_groups (g : Guid) : g.groups.map List.length = [8, 4, 4, 4, 12] := by
  simp [groups, length_hexPairs, g.size]

theorem flatten_groups (g : Guid) : g.groups.flatten = hexPairs g.bytes := by
  have hjoin : ∀ n k, (g.bytes.drop n).take k ++ g.bytes.drop (n + k) = g.bytes.drop n := by
    intro n k
    rw [← List.drop_drop, List.take_append_drop]
  have hbytes : g.bytes.take 4 ++ ((g.bytes.drop 4).take 2 ++ ((g.bytes.drop 6).take 2 ++
      ((g.bytes.drop 8).take 2 ++ g.bytes.drop 10))) = g.bytes := by
    rw [hjoin 8 2, hjoin 6 2, hjoin 4 2, List.take_append_drop]
  rw [← congrArg hexPairs hbytes]
  simp only [hexPairs_append, groups, List.flatten_cons, List.flatten_nil, List.append_nil]

theorem read_text (g : Guid) : read g.text = .ok g := by
  have hplain : ofDigits? g.chars = none := by
    cases h : bytesOfHex? g.chars with
    | none => rw [ofDigits?, h]; rfl
    | some bs => exact absurd (isHex_of_bytesOfHex h '-' (by simp [chars])) (by decide)
  have hgroups : ofGroups? g.chars = some g := by
    simp only [ofGroups?, split_chars, lengths_groups, flatten_groups, ofDigits_hexPairs, if_true]
  simp [read, text, ofChars?, hplain, hgroups]

end DirectoryPull.Guid
