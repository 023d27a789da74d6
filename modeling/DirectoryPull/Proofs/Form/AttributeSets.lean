import DirectoryPull.Proofs.Form.Values

/-!
# One form for each set

A set is its ids in ascending order, whether it was built from ids in any order, from ids that had to be in order, or
from JSON. So sets with the same members are the same.
-/

namespace DirectoryPull.AttributeSet

open Json

theorem read_ok_iff {text : String} {s : AttributeSet} :
    codec.read text = .ok s ↔ rawCodec.read text = .ok (1, s.ids) := by
  unfold codec
  rw [Codec.read_refine_ok_iff]
  constructor
  · rintro ⟨⟨found, ids⟩, hraw, hset⟩
    obtain ⟨hversion, hids⟩ := ofVersioned_ok_iff.mp (mapError_ok_iff.mp hset)
    rw [hraw, hids, hversion]
    rfl
  · intro hraw
    exact ⟨(1, s.ids), hraw, mapError_ok_iff.mpr (ofVersioned_ok_iff.mpr ⟨rfl, rfl⟩)⟩

/-- **Attribute sets.** -/
theorem canonical :
    (∀ ids, (ofList ids).ids.Pairwise (· < ·) ∧ ∀ a, a ∈ (ofList ids).ids ↔ a ∈ ids) ∧
    (∀ ids s, ofSorted ids = .ok s ↔ ids.Pairwise (· < ·) ∧ s.ids = ids) ∧
    (∀ text s, codec.read text = .ok s ↔ s.ids.Pairwise (· < ·) ∧ rawCodec.read text = .ok (1, s.ids)) ∧
    (∀ s : AttributeSet, rawCodec.read (codec.write s) = .ok (1, s.ids)) ∧
    (∀ (s : AttributeSet) (a : AttributeId), s.contains a = true ↔ a ∈ s.ids) ∧
    (∀ ids ids', ofList ids = ofList ids' ↔ ∀ a, a ∈ ids ↔ a ∈ ids') ∧
    (∀ s : AttributeSet, ofList s.ids = s ∧ ofSorted s.ids = .ok s) ∧
    ∀ s t : AttributeSet, s = t ↔ ∀ a, s.contains a = t.contains a := by
  refine ⟨?listed, ?sorted, ?read, ?written, contains_iff, ?equal, ?own, ?told⟩
  case listed => exact fun ids => ⟨(ofList ids).ascending, fun _ => mem_ofList⟩
  case sorted =>
    intro ids s
    rw [ofSorted_ok_iff, iff_and_self]
    rintro rfl
    exact s.ascending
  case read =>
    intro text s
    rw [read_ok_iff, iff_and_self]
    exact fun _ => s.ascending
  case written =>
    intro s
    rw [← read_ok_iff]
    exact (codec_flat 0).read_write (by decide) s
  case equal => exact fun ids ids' => ofList_eq_iff
  case own => exact fun s => ⟨ofList_ids s, ofSorted_ids s⟩
  case told => exact fun s t => eq_iff_contains

end DirectoryPull.AttributeSet
