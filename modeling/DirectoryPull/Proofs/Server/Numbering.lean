import DirectoryPull.Proofs.Server.Calls
import Mathlib.Data.List.Induction

/-!
# Update numbers

All naming contexts of a server draw their update numbers from one counter. In each of them the objects lie in
ascending order all the same, with gaps where the others were served.
-/

namespace DirectoryPull

/-! ## Numbered lists -/

/-- Objects in the order of their update numbers, which begin above zero and end before the next one. -/
structure Ascending (next : UInt64) (objects : List NumberedObject) : Prop where
  sorted : objects.Pairwise (·.usn < ·.usn)
  positive : ∀ o ∈ objects, 0 < o.usn
  passed : ∀ o ∈ objects, o.usn < next

theorem ascending_nil (next : UInt64) : Ascending next [] := ⟨.nil, by simp, by simp⟩

namespace Ascending

variable {next : UInt64} {objects : List NumberedObject}

theorem mono {later : UInt64} (h : Ascending next objects) (hle : next ≤ later) : Ascending later objects where
  sorted := h.sorted
  positive := h.positive
  passed o ho := by
    have := h.passed o ho
    rw [UInt64.lt_iff_toNat_lt] at this ⊢
    rw [UInt64.le_iff_toNat_le] at hle
    omega

theorem nodup (h : Ascending next objects) : objects.Nodup :=
  h.sorted.imp fun hlt heq => UInt64.ne_of_lt hlt (congrArg NumberedObject.usn heq)

theorem of_snoc {o : NumberedObject} (h : Ascending next (objects ++ [o])) : Ascending o.usn objects where
  sorted := (List.pairwise_append.mp h.sorted).1
  positive o ho := h.positive o (List.mem_append_left _ ho)
  passed p hp := (List.pairwise_append.mp h.sorted).2.2 p hp o (List.mem_singleton_self o)

theorem length_lt (h : Ascending next objects) (hnext : 0 < next) : objects.length < next.toNat := by
  induction objects using List.reverseRecOn generalizing next with
  | nil => exact UInt64.lt_iff_toNat_lt.mp hnext
  | append_singleton objects o ih =>
    have ho : o ∈ objects ++ [o] := List.mem_append_right _ (List.mem_singleton_self o)
    have := ih h.of_snoc (h.positive o ho)
    have := UInt64.lt_iff_toNat_lt.mp (h.passed o ho)
    rw [List.length_append, List.length_singleton]
    omega

end Ascending

namespace DirectoryServer

/-! ## Drawing numbers -/

theorem mem_numbered {first : UInt64} {names : List ObjectName} {o : NumberedObject} (h : o ∈ numbered first names) :
    ∃ i < names.length, o.usn = first + UInt64.ofNat i := by
  obtain ⟨i, hi, rfl⟩ := List.mem_mapIdx.mp h
  exact ⟨i, hi, rfl⟩

theorem objects_numbered (first : UInt64) (names : List ObjectName) :
    (numbered first names).map (·.object) = names.map newObject :=
  List.ext_getElem (by simp [numbered]) (by simp [numbered])

section

variable {first : UInt64} {count : Nat} (room : first.toNat + count < UInt64.size)
include room

theorem toNat_drawn {i : Nat} (hi : i ≤ count) : (first + UInt64.ofNat i).toNat = first.toNat + i := by
  have hlt : i < UInt64.size := by omega
  rw [UInt64.toNat_add, UInt64.toNat_ofNat_of_lt' hlt]
  exact Nat.mod_eq_of_lt (Nat.lt_of_le_of_lt (Nat.add_le_add_left hi _) room)

theorem le_drawn : first ≤ first + UInt64.ofNat count := by
  rw [UInt64.le_iff_toNat_le, toNat_drawn room (Nat.le_refl count)]
  omega

end

theorem ascending_addObjects {next : UInt64} {objects : List NumberedObject} {names : List ObjectName}
    (h : Ascending next objects) (hnext : 0 < next) (room : next.toNat + names.length < UInt64.size) :
    Ascending (next + UInt64.ofNat names.length) (objects ++ numbered next names) := by
  have hnew : ∀ o ∈ numbered next names, next ≤ o.usn ∧ o.usn < next + UInt64.ofNat names.length := by
    intro o ho
    obtain ⟨i, hi, heq⟩ := mem_numbered ho
    rw [heq, UInt64.le_iff_toNat_le, UInt64.lt_iff_toNat_lt, toNat_drawn room (Nat.le_of_lt hi),
      toNat_drawn room (Nat.le_refl _)]
    omega
  refine ⟨List.pairwise_append.mpr ⟨h.sorted, ?_, ?_⟩, ?_, ?_⟩
  · rw [List.pairwise_iff_getElem]
    intro i j hi hj hij
    simp only [numbered, List.length_mapIdx] at hi hj
    simp only [numbered, List.getElem_mapIdx]
    rw [UInt64.lt_iff_toNat_lt, toNat_drawn room (Nat.le_of_lt hi), toNat_drawn room (Nat.le_of_lt hj)]
    omega
  · intro a ha b hb
    exact UInt64.lt_of_lt_of_le (h.passed a ha) (hnew b hb).1
  · intro o ho
    rcases List.mem_append.mp ho with ho | ho
    · exact h.positive o ho
    · exact UInt64.lt_of_lt_of_le hnext (hnew o ho).1
  · intro o ho
    rcases List.mem_append.mp ho with ho | ho
    · exact UInt64.lt_of_lt_of_le (h.passed o ho) (le_drawn room)
    · exact (hnew o ho).2

/-! ## All that happens to a server -/

inductive Deed
  | addContext (context : String)
  | addObjects (context : String) (names : List ObjectName)
  | addController (domain server : String)
  | inject (call : Nat) (fault : PullFault)
  | failNextBind (e : TransportError)
  | bind (interface : Guid) (info : BindInfo)
  | pull (h : Handle) (r : PullRequest)
  | sync (h : Handle) (r : SyncRequest)
  | remove (h : Handle) (r : RemovalRequest)

def Deed.done (s : DirectoryServer) : Deed → DirectoryServer
  | addContext context => s.addContext context
  | addObjects context names => s.addObjects context names
  | addController domain server => s.addController domain server
  | inject call fault => s.inject call fault
  | failNextBind e => s.failNextBind e
  | bind interface info => (DirectoryServer.bind interface info).after s
  | pull h r => (DirectoryServer.pull h r).after s
  | sync h r => (DirectoryServer.sync h r).after s
  | remove h r => (DirectoryServer.remove h r).after s

/-- An object that is stored: where, and under which name. -/
structure Addition where
  context : String
  name : ObjectName
deriving DecidableEq

/-- What a deed stores, in order. -/
def Deed.additions : Deed → List Addition
  | addObjects context names => names.map (Addition.mk context)
  | _ => []

def additions (deeds : List Deed) : List Addition := deeds.flatMap Deed.additions

theorem additions_snoc (deeds : List Deed) (d : Deed) : additions (deeds ++ [d]) = additions deeds ++ d.additions := by
  rw [additions, List.flatMap_append, List.flatMap_singleton, additions]

/-- The objects that additions bring to a naming context. -/
def newObjects (context : String) (added : List Addition) : List ReplicaObject :=
  (added.filter (·.context = context)).map fun a => newObject a.name

theorem newObjects_append (context : String) (added more : List Addition) :
    newObjects context (added ++ more) = newObjects context added ++ newObjects context more := by
  rw [newObjects, List.filter_append, List.map_append, newObjects, newObjects]

theorem newObjects_own (context : String) (names : List ObjectName) :
    newObjects context (names.map (Addition.mk context)) = names.map newObject := by
  have hall : (names.map (Addition.mk context)).filter (·.context = context) = names.map (Addition.mk context) :=
    List.filter_eq_self.mpr (by simp)
  rw [newObjects, hall, List.map_map]
  rfl

theorem newObjects_other {context other : String} (h : context ≠ other) (names : List ObjectName) :
    newObjects context (names.map (Addition.mk other)) = [] := by
  simp [newObjects, List.filter_map, Function.comp_def, Ne.symm h]

/-- The counter does not run over: its additions are checked. -/
def Deed.Fits (s : DirectoryServer) : Deed → Prop
  | addObjects _ names => s.nextUsn.toNat + names.length < UInt64.size
  | _ => True

instance (s : DirectoryServer) (d : Deed) : Decidable (d.Fits s) :=
  match d with
  | .addObjects _ names => inferInstanceAs (Decidable (s.nextUsn.toNat + names.length < UInt64.size))
  | .addContext _ | .addController _ _ | .inject _ _ | .failNextBind _ | .bind _ _ | .pull _ _ | .sync _ _
  | .remove _ _ => inferInstanceAs (Decidable True)

inductive Reachable : DirectoryServer → Prop
  | fresh (e : Extensions) : Reachable (ofExtensions e)
  | step {s : DirectoryServer} (h : Reachable s) (d : Deed) (fits : d.Fits s) : Reachable (d.done s)

/-- A fresh server after some deeds. -/
def built (e : Extensions) (deeds : List Deed) : DirectoryServer := deeds.foldl Deed.done (ofExtensions e)

theorem built_snoc (e : Extensions) (deeds : List Deed) (d : Deed) :
    built e (deeds ++ [d]) = d.done (built e deeds) :=
  List.foldl_append

theorem Reachable.addObject {s : DirectoryServer} (h : Reachable s) (context dn : String) {guid : Guid}
    (room : s.nextUsn.toNat + 1 < UInt64.size) : Reachable (s.addObject context dn guid) :=
  h.step (.addObjects context [⟨guid, dn⟩]) room

theorem Reachable.populate {s : DirectoryServer} (h : Reachable s) (context : String) {count : Nat}
    {guids : Nat → Guid} (room : s.nextUsn.toNat + count < UInt64.size) :
    Reachable (s.populate context count guids) := by
  refine h.step (.addObjects context ((List.range count).map fun i => ⟨guids i, numberedDn context i⟩)) ?_
  rwa [Deed.Fits, List.length_map, List.length_range]

/-- A deed registers a naming context, stores objects, or leaves all that is held as it is. -/
theorem done_cases (s : DirectoryServer) (d : Deed) :
    (∃ context, d = .addContext context) ∨ (∃ context names, d = .addObjects context names) ∨
      (d.additions = [] ∧ (d.done s).holdings = s.holdings) := by
  cases d with
  | addContext context => exact .inl ⟨context, rfl⟩
  | addObjects context names => exact .inr (.inl ⟨context, names, rfl⟩)
  | addController | inject | failNextBind => exact .inr (.inr ⟨rfl, rfl⟩)
  | bind interface info => exact .inr (.inr ⟨rfl, (Prod.mk.inj (keeps_bindCall interface info s)).1⟩)
  | pull handle r => exact .inr (.inr ⟨rfl, keeps_pull handle r s⟩)
  | sync handle r => exact .inr (.inr ⟨rfl, (Prod.mk.inj (keeps_sync handle r s)).1⟩)
  | remove handle r => exact .inr (.inr ⟨rfl, (Prod.mk.inj (keeps_remove handle r s)).1⟩)

/-! ## What a look-up finds afterwards -/

section

variable (s : DirectoryServer) (context other : String) (names : List ObjectName)

theorem nextUsn_addContext : (s.addContext context).nextUsn = s.nextUsn := by
  unfold addContext
  split <;> rfl

theorem get?_addContext : (s.addContext context).contexts.get? other =
    if other = context then some (s.objectsOf other) else s.contexts.get? other := by
  unfold addContext Table.contains objectsOf
  by_cases hother : other = context
  · rw [if_pos hother, hother]
    cases hc : s.contexts.get? context with
    | none => exact Table.get?_insert_self _ _ _
    | some objects => exact hc
  · rw [if_neg hother]
    split
    · rfl
    · exact Table.get?_insert_of_ne _ _ hother

theorem get?_addObjects : (s.addObjects context names).contexts.get? other =
    if other = context then some (s.objectsOf other ++ numbered s.nextUsn names) else s.contexts.get? other := by
  unfold addObjects
  split
  · next hother => rw [hother, Table.get?_insert_self]
  · next hother => rw [Table.get?_insert_of_ne _ _ hother]

theorem objectsOf_addContext : (s.addContext context).objectsOf other = s.objectsOf other := by
  rw [objectsOf, get?_addContext]
  split <;> rfl

theorem objectsOf_addObjects : (s.addObjects context names).objectsOf other =
    if other = context then s.objectsOf other ++ numbered s.nextUsn names else s.objectsOf other := by
  rw [objectsOf, get?_addObjects]
  split <;> rfl

end

/-! ## Naming contexts grow -/

/-- What some additions bring to a naming context stands behind the objects that it had. -/
def Grown (context : String) (objects : List NumberedObject) (added : List Addition) (t : DirectoryServer) : Prop :=
  ∃ fresh, t.contexts.get? context = some (objects ++ fresh) ∧ fresh.map (·.object) = newObjects context added

section

variable {s t : DirectoryServer} {context : String} {objects : List NumberedObject}

theorem grown_none (h : t.contexts.get? context = some objects) : Grown context objects [] t :=
  ⟨[], by rw [List.append_nil, h], rfl⟩

variable (h : s.contexts.get? context = some objects)
include h

theorem objectsOf_held : s.objectsOf context = objects := by rw [objectsOf, h, Option.getD_some]

theorem grown_addContext (other : String) : Grown context objects [] (s.addContext other) := by
  apply grown_none
  rw [get?_addContext, objectsOf_held h, h, ite_self]

theorem grown_addObjects (other : String) (names : List ObjectName) :
    Grown context objects (names.map (Addition.mk other)) (s.addObjects other names) := by
  rw [Grown, get?_addObjects, objectsOf_held h, h]
  by_cases hcontext : context = other
  · rw [if_pos hcontext, ← hcontext, newObjects_own]
    exact ⟨numbered s.nextUsn names, rfl, objects_numbered _ _⟩
  · rw [if_neg hcontext, newObjects_other hcontext]
    exact ⟨[], by rw [List.append_nil], rfl⟩

theorem grown_done (d : Deed) : Grown context objects d.additions (d.done s) := by
  rcases done_cases s d with ⟨other, rfl⟩ | ⟨other, names, rfl⟩ | ⟨hnone, hkept⟩
  · exact grown_addContext h other
  · exact grown_addObjects h other names
  · rw [hnone]
    apply grown_none
    rw [(Prod.mk.inj hkept).1, h]

end

theorem Grown.done {t : DirectoryServer} {context : String} {objects : List NumberedObject} {added : List Addition}
    (h : Grown context objects added t) (d : Deed) : Grown context objects (added ++ d.additions) (d.done t) := by
  obtain ⟨fresh, hheld, hfresh⟩ := h
  obtain ⟨more, hthen, hmore⟩ := grown_done hheld d
  refine ⟨fresh ++ more, by rw [hthen, List.append_assoc], ?_⟩
  rw [List.map_append, hfresh, hmore, newObjects_append]

/-! ## Numbers in every naming context -/

structure Numbered (s : DirectoryServer) : Prop where
  started : 0 < s.nextUsn
  ascending : ∀ context objects, s.contexts.get? context = some objects → Ascending s.nextUsn objects

variable {s t : DirectoryServer}

theorem Numbered.of_holdings (h : Numbered s) (he : t.holdings = s.holdings) : Numbered t := by
  obtain ⟨hc, hn⟩ := Prod.mk.inj he
  constructor
  · rw [hn]
    exact h.started
  · rw [hc, hn]
    exact h.ascending

theorem Numbered.objectsOf (h : Numbered s) (context : String) : Ascending s.nextUsn (s.objectsOf context) := by
  unfold DirectoryServer.objectsOf
  cases hc : s.contexts.get? context with
  | none => exact ascending_nil _
  | some objects => exact h.ascending context objects hc

theorem numbered_fresh (e : Extensions) : Numbered (ofExtensions e) where
  started := by
    change (0 : UInt64) < 1
    decide
  ascending context objects hc := by simp [ofExtensions] at hc

theorem numbered_addContext (h : Numbered s) (context : String) : Numbered (s.addContext context) := by
  refine ⟨by rw [nextUsn_addContext]; exact h.started, fun other objects hc => ?_⟩
  rw [nextUsn_addContext]
  rw [get?_addContext] at hc
  split at hc
  · cases hc
    exact h.objectsOf other
  · exact h.ascending other objects hc

theorem numbered_addObjects (h : Numbered s) (context : String) {names : List ObjectName}
    (room : s.nextUsn.toNat + names.length < UInt64.size) : Numbered (s.addObjects context names) := by
  have hle := le_drawn room
  refine ⟨UInt64.lt_of_lt_of_le h.started hle, fun other objects hc => ?_⟩
  rw [get?_addObjects] at hc
  split at hc
  · cases hc
    exact ascending_addObjects (h.objectsOf other) h.started room
  · exact (h.ascending other objects hc).mono hle

theorem numbered_done (h : Numbered s) (d : Deed) (fits : d.Fits s) : Numbered (d.done s) := by
  rcases done_cases s d with ⟨context, rfl⟩ | ⟨context, names, rfl⟩ | ⟨-, hkept⟩
  · exact numbered_addContext h context
  · exact numbered_addObjects h context fits
  · exact h.of_holdings hkept

/-- **Update numbers.** Whatever happens to a server, every naming context lies in ascending order below the counter. -/
theorem Reachable.numbered (h : Reachable s) : Numbered s := by
  induction h with
  | fresh e => exact numbered_fresh e
  | step _ d fits ih => exact numbered_done ih d fits

end DirectoryServer

end DirectoryPull
