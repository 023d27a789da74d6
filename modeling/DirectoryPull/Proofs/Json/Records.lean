import DirectoryPull.Json.Record
import DirectoryPull.Proofs.Json.Codecs

/-!
# Records that read what they write

A written record holds a member for each field, in order, but for values that are left out and stand for
themselves. Reading it fills the places of the fields one after the other.
-/

namespace DirectoryPull.Json

variable {α β τ : Type}

namespace Fields

/-- A property of every field. -/
def All (P : {α : Type} → FieldCodec α → Prop) : {τ : Type} → Fields τ → Prop
  | _, done => True
  | _, field f rest => P f ∧ rest.All P

def names : {τ : Type} → Fields τ → List String
  | _, done => []
  | _, field f rest => f.name :: rest.names

variable {P Q : {α : Type} → FieldCodec α → Prop}

theorem All.nil : done.All P := trivial

theorem All.cons {f : FieldCodec α} {rest : Fields β} (h : P f) (hs : rest.All P) : (field f rest).All P := ⟨h, hs⟩

theorem All.imp (h : ∀ {α : Type} {f : FieldCodec α}, P f → Q f) {fs : Fields τ} (hs : fs.All P) : fs.All Q := by
  induction fs with
  | done => trivial
  | field f rest ih => exact ⟨h hs.1, ih hs.2⟩

end Fields

/-! ## One field -/

namespace FieldCodec

/-- The values of the field are read back, those that are left out as what their absence means. -/
structure ExactAt (n : Nat) (f : FieldCodec α) : Prop where
  codec : f.codec.ExactAt n
  unwritten : ∀ a, f.unwritten a = true → f.presence.absent? = some a

/-- Fields that are exact and never nest deeper than a bound. -/
structure Flat (k : Nat) (f : FieldCodec α) : Prop where
  exact : ∀ n, f.ExactAt n
  shallow : ∀ a, (f.codec.encode a).depth ≤ k

variable {name : String} {c : Codec α} {presence : Presence α} {n k : Nat}

theorem ExactAt.written (h : c.ExactAt n) : ExactAt n ⟨name, c, presence, fun _ => false⟩ := ⟨h, fun _ => nofun⟩

theorem Flat.written (h : c.Flat k) : Flat k ⟨name, c, presence, fun _ => false⟩ :=
  ⟨fun n => .written (h.exact n), h.shallow⟩

theorem Flat.omitted (h : c.Flat k) (hnull : c.NeverNull) :
    Flat k ⟨name, c.option, .defaulted none, Option.isNone⟩ := by
  have hoption := Codec.option_flat h hnull
  refine ⟨fun n => ⟨hoption.exact n, fun o ho => ?_⟩, hoption.shallow⟩
  rw [Option.isNone_iff_eq_none.mp ho]
  rfl

end FieldCodec

namespace Fields

/-! ## Filling the places -/

/-- The places once the members of a written record are read. -/
def filled : {τ : Type} → (fs : Fields τ) → τ → fs.Slots
  | _, done, _ => ()
  | _, field f rest, (a, as) => (if f.unwritten a then none else some a, rest.filled as)

theorem mem_names_of_members {fs : Fields τ} {as : τ} {m : String × Json} (h : m ∈ fs.members as) : m.1 ∈ fs.names := by
  induction fs with
  | done => exact absurd h List.not_mem_nil
  | field f rest ih =>
    obtain ⟨a, as⟩ := as
    unfold members at h
    split at h
    · exact List.mem_cons_of_mem _ (ih h)
    · rcases List.mem_cons.mp h with rfl | h
      · exact List.mem_cons_self
      · exact List.mem_cons_of_mem _ (ih h)

/-! One member more: it goes into its place, is passed over, or stops the reading. -/

section Step

variable {fs : Fields τ} {n : Nat} {name : String} {d : Draft} {slots slots' : fs.Slots}
  (ms : List (Option String × Draft))

theorem readMembers_placed (h : fs.put n name d slots = .ok (some slots')) :
    readMembers n fs slots ((some name, d) :: ms) = readMembers n fs slots' ms := by
  rw [readMembers, h]
  rfl

theorem readMembers_passed (h : fs.put n name d slots = .ok none) :
    readMembers n fs slots ((some name, d) :: ms) =
      if d.isWhole then readMembers n fs slots ms else .error .malformed := by
  rw [readMembers, h]
  rfl

theorem readMembers_stopped {e : Problem} (h : fs.put n name d slots = .error e) :
    readMembers n fs slots ((some name, d) :: ms) = .error e := by
  rw [readMembers, h]
  rfl

end Step

theorem put_same {f : FieldCodec α} {rest : Fields β} (n : Nat) (d : Draft) (slots : rest.Slots) :
    (field f rest).put n f.name d (none, slots) = (fun a => some (some a, slots)) <$> f.codec.decode n d := by
  rw [put, if_pos rfl]
  rfl

theorem put_other {f : FieldCodec α} {rest : Fields β} {name : String} (h : f.name ≠ name) (n : Nat) (d : Draft)
    (slot : Option α) (slots : rest.Slots) :
    (field f rest).put n name d (slot, slots) = Option.map (slot, ·) <$> rest.put n name d slots := by
  rw [put, if_neg h]
  rfl

theorem readMembers_skip {f : FieldCodec α} {rest : Fields β} (n : Nat) (slot : Option α) (slots : rest.Slots)
    {ms : List (String × Json)} (h : ∀ m ∈ ms, f.name ≠ m.1) :
    readMembers n (field f rest) (slot, slots) (memberDrafts ms) =
      (slot, ·) <$> readMembers n rest slots (memberDrafts ms) := by
  induction ms generalizing slots with
  | nil => rfl
  | cons m ms ih =>
    obtain ⟨name, j⟩ := m
    have hother := put_other (h _ List.mem_cons_self) n j.draft slot slots
    have hrest := fun slots => ih slots fun m hm => h m (List.mem_cons_of_mem _ hm)
    rw [memberDrafts]
    cases hput : rest.put n name j.draft slots with
    | error e =>
      rw [hput] at hother
      rw [readMembers_stopped _ hput, readMembers_stopped _ hother]
      rfl
    | ok put =>
      rw [hput] at hother
      cases put with
      | some slots' =>
        rw [readMembers_placed _ hput, readMembers_placed _ hother]
        exact hrest slots'
      | none =>
        rw [readMembers_passed _ hput, readMembers_passed _ hother]
        split
        · exact hrest slots
        · rfl

theorem readMembers_members {fs : Fields τ} {n : Nat} (hnames : fs.names.Nodup) (h : fs.All (·.ExactAt n)) (as : τ) :
    readMembers n fs fs.vacant (memberDrafts (fs.members as)) =
      within n (membersDepth (fs.members as)) (fs.filled as) := by
  induction fs with
  | done => exact (within_zero n ()).symm
  | field f rest ih =>
    obtain ⟨a, as⟩ := as
    obtain ⟨hfresh, hnames⟩ := List.nodup_cons.mp hnames
    -- No member behind the first has its name, so its place stays as it is while they are read.
    have hrest : ∀ slot : Option _, readMembers n (field f rest) (slot, rest.vacant) (memberDrafts (rest.members as)) =
        within n (membersDepth (rest.members as)) (slot, rest.filled as) := by
      intro slot
      rw [readMembers_skip n slot rest.vacant fun m hm hname => hfresh (hname ▸ mem_names_of_members hm), ih hnames h.2]
      exact within_map n _ _ (slot, ·)
    rw [members, filled]
    split
    · exact hrest none
    · have hput := put_same (f := f) n (f.codec.encode a).draft rest.vacant
      rw [h.1.codec a] at hput
      rw [memberDrafts, membersDepth]
      refine Eq.trans ?_ (within_bind n _ _ a (fun a => (some a, rest.filled as)))
      by_cases hdepth : (f.codec.encode a).depth ≤ n
      · rw [within, if_pos hdepth] at hput ⊢
        exact (readMembers_placed _ hput).trans (hrest (some a))
      · rw [within, if_neg hdepth] at hput ⊢
        exact readMembers_stopped _ hput

theorem settle_filled {fs : Fields τ} {n : Nat} (h : fs.All (·.ExactAt n)) (as : τ) :
    fs.settle (fs.filled as) = .ok as := by
  induction fs with
  | done => rfl
  | field f rest ih =>
    obtain ⟨a, as⟩ := as
    have hvalue : (if f.unwritten a then none else some a).or f.presence.absent? = some a := by
      split
      · exact h.1.unwritten a (by assumption)
      · rfl
    rw [filled, settle, hvalue, ih h.2 as]
    rfl

theorem membersDepth_members {fs : Fields τ} {k : Nat} (h : fs.All (·.Flat k)) (as : τ) :
    membersDepth (fs.members as) ≤ k := by
  induction fs with
  | done => exact Nat.zero_le k
  | field f rest ih =>
    obtain ⟨a, as⟩ := as
    rw [members]
    split
    · exact ih h.2 as
    · exact Nat.max_le.mpr ⟨h.1.shallow a, ih h.2 as⟩

end Fields

/-! ## Records -/

namespace Codec

variable {title : String} {fs : Fields τ} {toTuple : α → τ} {ofTuple : τ → α}

/-- The fields need to be exact only under the budgets that are left inside the record. -/
theorem record_exactAt {n : Nat} (hnames : fs.names.Nodup) (hback : ∀ a, ofTuple (toTuple a) = a)
    (h : ∀ m, m + 1 = n → fs.All (·.ExactAt m)) : (record title fs toTuple ofTuple).ExactAt n := by
  intro a
  cases n with
  | zero =>
    change Except.error Problem.malformed = _
    exact (if_neg (by change ¬ 1 + _ ≤ 0; omega)).symm
  | succ m =>
    have hfields := h m rfl
    change (fs.readMembers m fs.vacant (memberDrafts (fs.members (toTuple a))) >>= fun slots =>
      ofTuple <$> fs.settle slots) = within (m + 1) (1 + membersDepth (fs.members (toTuple a))) a
    rw [Fields.readMembers_members hnames hfields, ← inside_within]
    change _ = within m _ a
    unfold within
    split
    · change ofTuple <$> fs.settle (fs.filled (toTuple a)) = _
      rw [Fields.settle_filled hfields]
      exact congrArg Except.ok (hback a)
    · rfl

theorem record_flat {k : Nat} (hnames : fs.names.Nodup) (hback : ∀ a, ofTuple (toTuple a) = a)
    (h : fs.All (·.Flat k)) : (record title fs toTuple ofTuple).Flat (k + 1) := by
  refine ⟨fun n => record_exactAt hnames hback fun m _ => h.imp fun hf => hf.exact m, fun a => ?_⟩
  have hmembers := Fields.membersDepth_members h (toTuple a)
  change 1 + membersDepth (fs.members (toTuple a)) ≤ k + 1
  omega

theorem record_neverNull : (record title fs toTuple ofTuple).NeverNull := fun _ => nofun

end Codec

end DirectoryPull.Json
