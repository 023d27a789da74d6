import DirectoryPull.Proofs.Server.Numbering

/-!
# The ledger

All that is ever stored on a server makes one list, numbered from one in the order in which it came. Every naming
context holds its own part of that list, so no number is left out and none stands in two places.
-/

namespace DirectoryPull.DirectoryServer

/-! ## Additions with their numbers -/

/-- What is stored for an addition that so many others came before. -/
def Addition.stored (a : Addition) (i : Nat) : NumberedObject := ⟨UInt64.ofNat (i + 1), newObject a.name⟩

/-- What is stored for all additions, beside the naming contexts that it goes to. -/
def ledger (added : List Addition) : List (String × NumberedObject) :=
  added.mapIdx fun i a => (a.context, a.stored i)

def part (context : String) (entries : List (String × NumberedObject)) : List NumberedObject :=
  (entries.filter (·.1 = context)).map Prod.snd

theorem part_append (context : String) (front back : List (String × NumberedObject)) :
    part context (front ++ back) = part context front ++ part context back := by
  rw [part, List.filter_append, List.map_append, part, part]

theorem part_own (context : String) (objects : List NumberedObject) :
    part context (objects.map (Prod.mk context)) = objects := by
  simp [part, List.filter_map, Function.comp_def]

theorem part_other {context other : String} (h : context ≠ other) (objects : List NumberedObject) :
    part context (objects.map (Prod.mk other)) = [] := by
  simp [part, List.filter_map, Function.comp_def, Ne.symm h]

theorem stored_drawn (first i : Nat) (context : String) (name : ObjectName) :
    Addition.stored ⟨context, name⟩ (i + first) = ⟨UInt64.ofNat (first + 1) + UInt64.ofNat i, newObject name⟩ := by
  rw [Addition.stored, ← UInt64.ofNat_add]
  congr 2
  omega

theorem ledger_append (added : List Addition) (context : String) (names : List ObjectName) :
    ledger (added ++ names.map (Addition.mk context)) =
      ledger added ++ (numbered (UInt64.ofNat (added.length + 1)) names).map (Prod.mk context) := by
  have hnew : (names.map (Addition.mk context)).mapIdx (fun i a => (a.context, a.stored (i + added.length))) =
      (numbered (UInt64.ofNat (added.length + 1)) names).map (Prod.mk context) := by
    refine List.ext_getElem (by simp [numbered]) fun i _ _ => ?_
    simp [numbered, stored_drawn]
  rw [ledger, List.mapIdx_append, hnew, ledger]

theorem mem_part_ledger {added : List Addition} {context : String} {o : NumberedObject} :
    o ∈ part context (ledger added) ↔
      ∃ (i : Nat) (a : Addition), added[i]? = some a ∧ a.context = context ∧ a.stored i = o := by
  simp only [part, ledger, List.mem_map, List.mem_filter, List.mem_mapIdx, decide_eq_true_eq]
  constructor
  · rintro ⟨_, ⟨⟨i, hi, rfl⟩, hcontext⟩, rfl⟩
    exact ⟨i, added[i], List.getElem?_eq_getElem hi, hcontext, rfl⟩
  · rintro ⟨i, a, ha, hcontext, rfl⟩
    obtain ⟨hi, rfl⟩ := List.getElem?_eq_some_iff.mp ha
    exact ⟨_, ⟨⟨i, hi, rfl⟩, hcontext⟩, rfl⟩

theorem toNat_stored {added : List Addition} (room : added.length < UInt64.size - 1) {i : Nat} {a : Addition}
    (hi : added[i]? = some a) : (a.stored i).usn.toNat = i + 1 := by
  obtain ⟨hlt, -⟩ := List.getElem?_eq_some_iff.mp hi
  exact UInt64.toNat_ofNat_of_lt' (by omega)

/-! ## What a server holds -/

/-- A server holds what was added to it, each naming context its own part, and nothing else. -/
structure Filed (s : DirectoryServer) (added : List Addition) : Prop where
  next : s.nextUsn = UInt64.ofNat (added.length + 1)
  held : ∀ context, s.objectsOf context = part context (ledger added)

theorem filed_fresh (e : Extensions) : Filed (ofExtensions e) [] := ⟨rfl, fun _ => rfl⟩

section

variable {s t : DirectoryServer} {added : List Addition}

theorem Filed.of_holdings (h : Filed s added) (he : t.holdings = s.holdings) : Filed t added := by
  obtain ⟨hcontexts, hnext⟩ := Prod.mk.inj he
  refine ⟨hnext.trans h.next, fun context => ?_⟩
  rw [← h.held, objectsOf, hcontexts, objectsOf]

theorem filed_addContext (h : Filed s added) (context : String) : Filed (s.addContext context) added where
  next := by rw [nextUsn_addContext, h.next]
  held other := by rw [objectsOf_addContext, h.held]

theorem filed_addObjects (h : Filed s added) (context : String) (names : List ObjectName) :
    Filed (s.addObjects context names) (added ++ names.map (Addition.mk context)) where
  next := by
    rw [addObjects, h.next, ← UInt64.ofNat_add, List.length_append, List.length_map, Nat.add_right_comm]
  held other := by
    rw [objectsOf_addObjects, ledger_append, part_append, h.held, h.next]
    split
    · next hother => rw [hother, part_own]
    · next hother => rw [part_other hother, List.append_nil]

theorem filed_done (h : Filed s added) (d : Deed) : Filed (d.done s) (added ++ d.additions) := by
  rcases done_cases s d with ⟨context, rfl⟩ | ⟨context, names, rfl⟩ | ⟨hnone, hkept⟩
  · have hnone : (Deed.addContext context).additions = [] := rfl
    rw [hnone, List.append_nil]
    exact filed_addContext h context
  · exact filed_addObjects h context names
  · rw [hnone, List.append_nil]
    exact h.of_holdings hkept

end

theorem filed_built (e : Extensions) (deeds : List Deed) : Filed (built e deeds) (additions deeds) := by
  induction deeds using List.reverseRecOn with
  | nil => exact filed_fresh e
  | append_singleton deeds d ih =>
    rw [built_snoc, additions_snoc]
    exact filed_done ih d

/-! ## While the counter has room -/

section

variable {s : DirectoryServer} {added : List Addition} (h : Filed s added)
include h

theorem Filed.mem_objectsOf {context : String} {o : NumberedObject} : o ∈ s.objectsOf context ↔
    ∃ (i : Nat) (a : Addition), added[i]? = some a ∧ a.context = context ∧ a.stored i = o := by
  rw [h.held, mem_part_ledger]

variable (room : added.length < UInt64.size - 1)
include room

theorem Filed.toNat_nextUsn : s.nextUsn.toNat = added.length + 1 := by
  rw [h.next]
  exact UInt64.toNat_ofNat_of_lt' (by omega)

theorem Filed.toNat_highestUsn : s.highestUsn.toNat = added.length := by
  have hnext := h.toNat_nextUsn room
  have hone : (1 : UInt64) ≤ s.nextUsn := by
    rw [UInt64.le_iff_toNat_le, hnext]
    exact Nat.le_add_left 1 _
  rw [highestUsn, UInt64.toNat_sub_of_le _ _ hone, hnext]
  rfl

theorem Filed.eq_of_usn {context other : String} {o p : NumberedObject} (ho : o ∈ s.objectsOf context)
    (hp : p ∈ s.objectsOf other) (heq : o.usn = p.usn) : context = other ∧ o = p := by
  obtain ⟨i, a, ha, rfl, rfl⟩ := h.mem_objectsOf.mp ho
  obtain ⟨j, b, hb, rfl, rfl⟩ := h.mem_objectsOf.mp hp
  have hnumbers := congrArg UInt64.toNat heq
  rw [toNat_stored room ha, toNat_stored room hb, Nat.add_right_cancel_iff] at hnumbers
  rw [hnumbers, hb, Option.some.injEq] at ha
  rw [hnumbers, ha]
  exact ⟨rfl, rfl⟩

theorem Filed.exists_usn_iff (usn : UInt64) :
    (∃ context, ∃ o ∈ s.objectsOf context, o.usn = usn) ↔ 0 < usn ∧ usn ≤ s.highestUsn := by
  rw [UInt64.lt_iff_toNat_lt, UInt64.le_iff_toNat_le, h.toNat_highestUsn room, UInt64.toNat_zero]
  constructor
  · rintro ⟨context, o, ho, rfl⟩
    obtain ⟨i, a, ha, -, rfl⟩ := h.mem_objectsOf.mp ho
    obtain ⟨hlt, -⟩ := List.getElem?_eq_some_iff.mp ha
    rw [toNat_stored room ha]
    exact ⟨Nat.succ_pos i, hlt⟩
  · rintro ⟨hpos, hle⟩
    obtain ⟨i, hi⟩ := Nat.exists_eq_add_one.mpr hpos
    have hlt : i < added.length := by omega
    have ha : added[i]? = some added[i] := List.getElem?_eq_getElem hlt
    refine ⟨_, _, h.mem_objectsOf.mpr ⟨i, _, ha, rfl, rfl⟩, UInt64.toNat_inj.mp ?_⟩
    rw [toNat_stored room ha, hi]

end

theorem reachable_built (e : Extensions) (deeds : List Deed) (room : (additions deeds).length < UInt64.size - 1) :
    Reachable (built e deeds) := by
  induction deeds using List.reverseRecOn with
  | nil => exact .fresh e
  | append_singleton deeds d ih =>
    rw [additions_snoc, List.length_append] at room
    have hbefore : (additions deeds).length < UInt64.size - 1 := by omega
    rw [built_snoc]
    refine (ih hbefore).step d ?_
    cases d with
    | addObjects context names =>
      rw [Deed.Fits, (filed_built e deeds).toNat_nextUsn hbefore]
      rw [Deed.additions, List.length_map] at room
      omega
    | _ => trivial

theorem grown_built {e : Extensions} {before : List Deed} {context : String} {objects : List NumberedObject}
    (h : (built e before).contexts.get? context = some objects) (later : List Deed) :
    Grown context objects (additions later) (built e (before ++ later)) := by
  induction later using List.reverseRecOn with
  | nil =>
    rw [List.append_nil]
    exact grown_none h
  | append_singleton later d ih =>
    rw [← List.append_assoc, built_snoc, additions_snoc]
    exact ih.done d

/-! ## The whole store -/

/-- What a fresh server holds after some deeds. -/
structure WellKept (e : Extensions) (deeds : List Deed) : Prop where
  /-- Numbers ascend in the order of storage. -/
  ascending : ∀ context, ((built e deeds).objectsOf context).Pairwise (·.usn < ·.usn)
  /-- No number stands in two places. -/
  once : ∀ {context other : String} {i j : Nat} {o p : NumberedObject},
    ((built e deeds).objectsOf context)[i]? = some o → ((built e deeds).objectsOf other)[j]? = some p →
      o.usn = p.usn → context = other ∧ i = j
  /-- No number up to the last is left out. -/
  numbers : ∀ usn, (∃ context, ∃ o ∈ (built e deeds).objectsOf context, o.usn = usn) ↔
    0 < usn ∧ usn ≤ (built e deeds).highestUsn
  counted : (built e deeds).highestUsn.toNat = (additions deeds).length
  /-- Every naming context holds what was added to it, as it was added. -/
  filed : ∀ context, (built e deeds).objectsOf context = part context (ledger (additions deeds))
  /-- What was held at any moment is held still, and what was added later stands behind it. -/
  grown : ∀ before later, before ++ later = deeds → ∀ context objects,
    (built e before).contexts.get? context = some objects → Grown context objects (additions later) (built e deeds)

/-- **The ledger.** Whatever else happens, every object that is added gets the next number and stays where it is. -/
theorem ledger_exact (e : Extensions) (deeds : List Deed) (room : (additions deeds).length < UInt64.size - 1) :
    WellKept e deeds := by
  have hfiled := filed_built e deeds
  have hnumbered := (reachable_built e deeds room).numbered
  constructor
  case ascending => exact fun context => (hnumbered.objectsOf context).sorted
  case once =>
    intro context other i j o p ho hp heq
    obtain ⟨rfl, rfl⟩ := hfiled.eq_of_usn room (List.mem_of_getElem? ho) (List.mem_of_getElem? hp) heq
    obtain ⟨hi, -⟩ := List.getElem?_eq_some_iff.mp ho
    exact ⟨rfl, (List.getElem?_inj hi (hnumbered.objectsOf context).nodup).mp (ho.trans hp.symm)⟩
  case numbers => exact hfiled.exists_usn_iff room
  case counted => exact hfiled.toNat_highestUsn room
  case filed => exact hfiled.held
  case grown =>
    rintro before later rfl context objects hheld
    exact grown_built hheld later

/-- Two naming contexts that are filled by turns, one of them with two objects of one name. One is registered once
more, one gets no objects for once, and a pull with a fault and a removal come in between. -/
def sharedDeeds : List Deed :=
  [.addObjects "DC=a" [⟨.fill 1, "CN=1,DC=a"⟩], .addContext "DC=a",
    .addObjects "DC=b" [⟨.fill 2, "CN=obj0,DC=b"⟩, ⟨.fill 3, "CN=obj1,DC=b"⟩], .inject 0 .dropObjects,
    .pull handle (.reduced (.start (.ofDn "DC=a") .nil .nil)), .addObjects "DC=b" [],
    .remove handle ⟨"CN=1,DC=a", "DC=a", true⟩, .addObjects "DC=a" [⟨.fill 4, "CN=1,DC=a"⟩]]

theorem ledger_exact_shared : (additions sharedDeeds).length < UInt64.size - 1 ∧ WellKept .offered sharedDeeds :=
  ⟨by decide, ledger_exact .offered sharedDeeds (by decide)⟩

end DirectoryPull.DirectoryServer
