import DirectoryPull.Proofs.Json.Records

/-!
# Values that fit the budget under which they were read

Whatever form a text has, reading opens a container for each level of the value that comes out of it. So the value
can be written and read again under the same budget.
-/

namespace DirectoryPull.Json

variable {α β τ : Type}

/-! ## The law -/

/-- What is read under a budget nests no deeper when it is written. -/
def Codec.ConfinedAt (n : Nat) (c : Codec α) : Prop := ∀ d a, c.decode n d = .ok a → (c.encode a).depth ≤ n

/-- A field whose values are confined, those that stand for its absence included. -/
structure FieldCodec.ConfinedAt (n : Nat) (f : FieldCodec α) : Prop where
  codec : f.codec.ConfinedAt n
  absent : ∀ a, f.presence.absent? = some a → (f.codec.encode a).depth ≤ n

section Field

variable {name : String} {c : Codec α} {unwritten : α → Bool} {n : Nat}

theorem FieldCodec.ConfinedAt.required (h : c.ConfinedAt n) : ConfinedAt n ⟨name, c, .required, unwritten⟩ :=
  ⟨h, fun _ => nofun⟩

theorem FieldCodec.ConfinedAt.optional {absent : α} (h : c.ConfinedAt n) (habsent : c.encode absent = .null) :
    ConfinedAt n ⟨name, c, .optional absent, unwritten⟩ := by
  refine ⟨h, fun a ha => ?_⟩
  rw [← Option.some.inj ha, habsent]
  exact Nat.zero_le n

end Field

/-! ## What a result came from -/

theorem of_map_ok {x : Except Problem α} {f : α → β} {b : β} (h : f <$> x = .ok b) : ∃ a, x = .ok a ∧ f a = b := by
  cases x with
  | error e => exact nomatch h
  | ok a => exact ⟨a, rfl, Except.ok.inj h⟩

theorem of_inside_ok {n : Nat} {m : Nat} (h : inside n = .ok m) : m + 1 = n := by
  cases n with
  | zero => exact nomatch h
  | succ n => exact congrArg (· + 1) (Except.ok.inj h).symm

theorem wrongType_ne_ok {d : Draft} {wanted : String} {a : α} : wrongType d wanted ≠ .ok a := by
  intro h
  obtain ⟨_, -, h⟩ := bind_ok_iff.mp h
  exact nomatch h

theorem of_whole_ok {whole : Bool} {x : Except Problem α} {a : α}
    (h : (if whole then x else .error .malformed) = .ok a) : x = .ok a := by
  cases whole with
  | true => exact h
  | false => exact nomatch h

namespace Codec

/-! ## Values made of others -/

theorem Flat.confinedAt {c : Codec α} (h : c.Flat 0) (n : Nat) : c.ConfinedAt n :=
  fun _ a _ => Nat.le_trans (h.shallow a) (Nat.zero_le n)

theorem convert_confinedAt {c : Codec α} {n : Nat} {toRaw : β → α} {ofRaw : α → β} (hc : c.ConfinedAt n)
    (h : ∀ a, toRaw (ofRaw a) = a) : (c.convert toRaw ofRaw).ConfinedAt n := by
  intro d b hb
  obtain ⟨a, ha, rfl⟩ := of_map_ok hb
  change (c.encode (toRaw (ofRaw a))).depth ≤ n
  rw [h]
  exact hc d a ha

theorem option_confinedAt {c : Codec α} {n : Nat} (hc : c.ConfinedAt n) : c.option.ConfinedAt n := by
  intro d o ho
  cases o with
  | none => exact Nat.zero_le n
  | some a =>
    by_cases hd : d = .null
    · subst hd
      exact nomatch ho
    · rw [option_decode n hd] at ho
      obtain ⟨_, ha, heq⟩ := of_map_ok ho
      exact hc d a (Option.some.inj heq ▸ ha)

theorem itemsDepth_of_mapM {c : Codec α} {n : Nat} (hc : c.ConfinedAt n) {ds : List Draft} {as : List α}
    (h : ds.mapM (c.decode n) = .ok as) : itemsDepth (as.map c.encode) ≤ n := by
  induction ds generalizing as with
  | nil =>
    rw [← Except.ok.inj h]
    exact Nat.zero_le n
  | cons d ds ih =>
    rw [List.mapM_cons] at h
    obtain ⟨a, ha, h⟩ := bind_ok_iff.mp h
    obtain ⟨rest, hrest, h⟩ := bind_ok_iff.mp h
    rw [← Except.ok.inj h]
    exact Nat.max_le.mpr ⟨hc d a ha, ih hrest⟩

theorem list_confinedAt {c : Codec α} {n : Nat} (h : ∀ m, m + 1 = n → c.ConfinedAt m) : c.list.ConfinedAt n := by
  intro d as has
  cases d with
  | array items whole =>
    obtain ⟨m, hm, has⟩ := bind_ok_iff.mp has
    obtain ⟨read, hread, has⟩ := bind_ok_iff.mp has
    obtain rfl := Except.ok.inj (of_whole_ok has)
    have hm := of_inside_ok hm
    have hitems := itemsDepth_of_mapM (h m hm) hread
    change 1 + itemsDepth (read.map c.encode) ≤ n
    omega
  | _ => exact absurd has wrongType_ne_ok

end Codec

/-! ## Records -/

namespace Fields

/-- The values in the places are confined. -/
def Confines (n : Nat) : {τ : Type} → (fs : Fields τ) → fs.Slots → Prop
  | _, done, _ => True
  | _, .field (α := α) f rest, slots =>
    let (slot, slots) : Option α × rest.Slots := slots
    (∀ a ∈ slot, (f.codec.encode a).depth ≤ n) ∧ rest.Confines n slots

theorem confines_vacant (n : Nat) (fs : Fields τ) : fs.Confines n fs.vacant := by
  induction fs with
  | done => trivial
  | field f rest ih => exact ⟨fun _ => nofun, ih⟩

theorem confines_put {fs : Fields τ} {n : Nat} {name : String} {d : Draft} {slots slots' : fs.Slots}
    (hfs : fs.All (·.ConfinedAt n)) (hslots : fs.Confines n slots) (h : fs.put n name d slots = .ok (some slots')) :
    fs.Confines n slots' := by
  induction fs with
  | done => cases h
  | field f rest ih =>
    obtain ⟨slot, slots⟩ := slots
    by_cases hname : f.name = name
    · subst hname
      cases slot with
      | some a =>
        rw [put, if_pos rfl] at h
        cases h
      | none =>
        rw [put_same] at h
        obtain ⟨a, ha, heq⟩ := of_map_ok h
        obtain rfl := Option.some.inj heq
        exact ⟨fun b hb => Option.some.inj hb ▸ hfs.1.codec d a ha, hslots.2⟩
    · rw [put_other hname] at h
      obtain ⟨put, hput, heq⟩ := of_map_ok h
      cases put with
      | none => cases heq
      | some rest' =>
        obtain rfl := Option.some.inj heq
        exact ⟨hslots.1, ih hfs.2 hslots.2 hput⟩

theorem confines_readMembers {fs : Fields τ} {n : Nat} {slots slots' : fs.Slots} {ms : List (Option String × Draft)}
    (hfs : fs.All (·.ConfinedAt n)) (hslots : fs.Confines n slots) (h : fs.readMembers n slots ms = .ok slots') :
    fs.Confines n slots' := by
  induction ms generalizing slots with
  | nil => exact Except.ok.inj h ▸ hslots
  | cons m ms ih =>
    obtain ⟨name, d⟩ := m
    cases name with
    | none => exact nomatch h
    | some name =>
      cases hput : fs.put n name d slots with
      | error e =>
        rw [readMembers_stopped ms hput] at h
        exact nomatch h
      | ok put =>
        cases put with
        | some slots'' =>
          rw [readMembers_placed ms hput] at h
          exact ih (confines_put hfs hslots hput) h
        | none =>
          rw [readMembers_passed ms hput] at h
          exact ih hslots (of_whole_ok h)

theorem membersDepth_cons {f : FieldCodec α} {rest : Fields β} {n : Nat} {a : α} {as : β}
    (ha : (f.codec.encode a).depth ≤ n) (has : membersDepth (rest.members as) ≤ n) :
    membersDepth ((field f rest).members (a, as)) ≤ n := by
  rw [members]
  split
  · exact has
  · exact Nat.max_le.mpr ⟨ha, has⟩

theorem membersDepth_of_settle {fs : Fields τ} {n : Nat} {slots : fs.Slots} {as : τ}
    (hfs : fs.All (·.ConfinedAt n)) (hslots : fs.Confines n slots) (h : fs.settle slots = .ok as) :
    membersDepth (fs.members as) ≤ n := by
  induction fs with
  | done => exact Nat.zero_le n
  | field f rest ih =>
    obtain ⟨slot, slots⟩ := slots
    rw [settle] at h
    cases hvalue : slot.or f.presence.absent? with
    | none =>
      rw [hvalue] at h
      cases h
    | some a =>
      rw [hvalue] at h
      obtain ⟨as, has, h⟩ := bind_ok_iff.mp h
      obtain rfl := Except.ok.inj h
      refine membersDepth_cons ?_ (ih hfs.2 hslots.2 has)
      rcases Option.or_eq_some_iff.mp hvalue with rfl | ⟨-, habsent⟩
      · exact hslots.1 a rfl
      · exact hfs.1.absent a habsent

theorem membersDepth_of_readItems {fs : Fields τ} {n index : Nat} {wanted : String} {whole : Bool} {ds : List Draft}
    {as : τ} (hfs : fs.All (·.ConfinedAt n)) (h : fs.readItems n wanted whole index ds = .ok as) :
    membersDepth (fs.members as) ≤ n := by
  induction fs generalizing index ds with
  | done => exact Nat.zero_le n
  | field f rest ih =>
    cases ds with
    | cons d ds =>
      obtain ⟨a, ha, h⟩ := bind_ok_iff.mp h
      obtain ⟨as, has, h⟩ := bind_ok_iff.mp h
      obtain rfl := Except.ok.inj h
      exact membersDepth_cons (hfs.1.codec d a ha) (ih hfs.2 has)
    | nil =>
      cases whole with
      | false => exact nomatch h
      | true =>
        cases hpresence : f.presence with
        | defaulted a =>
          simp only [readItems, hpresence] at h
          obtain ⟨as, has, h⟩ := bind_ok_iff.mp h
          obtain rfl := Except.ok.inj h
          exact membersDepth_cons (hfs.1.absent a (by rw [hpresence]; rfl)) (ih hfs.2 has)
        | _ =>
          simp only [readItems, hpresence] at h
          exact nomatch h

end Fields

theorem Codec.record_confinedAt {title : String} {fs : Fields τ} {toTuple : α → τ} {ofTuple : τ → α} {n : Nat}
    (hforth : ∀ t, toTuple (ofTuple t) = t) (h : ∀ m, m + 1 = n → fs.All (·.ConfinedAt m)) :
    (record title fs toTuple ofTuple).ConfinedAt n := by
  intro d a ha
  -- Both forms give a tuple whose members fit one level less.
  suffices hmembers : ∃ m t, m + 1 = n ∧ ofTuple t = a ∧ membersDepth (fs.members t) ≤ m by
    obtain ⟨m, t, hm, rfl, hdepth⟩ := hmembers
    change 1 + membersDepth (fs.members (toTuple (ofTuple t))) ≤ n
    rw [hforth]
    omega
  cases d with
  | object ms whole =>
    obtain ⟨m, hm, ha⟩ := bind_ok_iff.mp ha
    obtain ⟨slots, hslots, ha⟩ := bind_ok_iff.mp ha
    obtain ⟨t, ht, hta⟩ := of_map_ok (of_whole_ok ha)
    have hfs := h m (of_inside_ok hm)
    have hconfines := Fields.confines_readMembers hfs (Fields.confines_vacant m fs) hslots
    exact ⟨m, t, of_inside_ok hm, hta, Fields.membersDepth_of_settle hfs hconfines ht⟩
  | array items whole =>
    obtain ⟨m, hm, ha⟩ := bind_ok_iff.mp ha
    obtain ⟨t, ht, hta⟩ := of_map_ok ha
    exact ⟨m, t, of_inside_ok hm, hta, Fields.membersDepth_of_readItems (h m (of_inside_ok hm)) ht⟩
  | _ => exact absurd ha wrongType_ne_ok

end DirectoryPull.Json
