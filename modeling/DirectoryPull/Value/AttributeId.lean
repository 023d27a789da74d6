import DirectoryPull.Text.Numeral

/-! # Attribute ids -/

namespace DirectoryPull

structure AttributeId where
  value : UInt32
deriving DecidableEq

namespace AttributeId

instance : LT AttributeId := ⟨fun a b => a.value < b.value⟩

instance (a b : AttributeId) : Decidable (a < b) := inferInstanceAs (Decidable (a.value < b.value))

def text (a : AttributeId) : String := Numeral.word a.value

theorem lt_iff (a b : AttributeId) : a < b ↔ a.value.toNat < b.value.toNat := UInt32.lt_iff_toNat_lt

theorem lt_trans {a b c : AttributeId} (h : a < b) (h' : b < c) : a < c := by
  rw [lt_iff] at *; omega

theorem lt_irrefl (a : AttributeId) : ¬ a < a := by rw [lt_iff]; omega

theorem lt_or_lt_of_ne {a b : AttributeId} (h : a ≠ b) : a < b ∨ b < a := by
  have hv : a.value.toNat ≠ b.value.toNat := fun e => h (by
    cases a; cases b; simpa using UInt32.toNat_inj.mp e)
  rw [lt_iff, lt_iff]; omega

end AttributeId

end DirectoryPull
