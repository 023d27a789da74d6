import DirectoryPull.Text.Blank

/-!
# Search records

What a search of the schema returns: a name and the values of some attributes, ordered by attribute name.
-/

namespace DirectoryPull

/-- Values by attribute name, the names strictly ascending. -/
structure AttributeMap where
  entries : List (String × List String)
  ascending : (entries.map Prod.fst).Pairwise (· < ·)
deriving DecidableEq

namespace AttributeMap

def empty : AttributeMap := ⟨[], .nil⟩

/-- Changes the values of a name, which starts without any. -/
def place (name : String) (change : List String → List String) :
    List (String × List String) → List (String × List String)
  | [] => [(name, change [])]
  | (key, values) :: rest =>
    if name = key then (key, change values) :: rest
    else if name < key then (name, change []) :: (key, values) :: rest
    else (key, values) :: place name change rest

theorem mem_keys_place {name : String} {change : List String → List String}
    {es : List (String × List String)} {x : String} :
    x ∈ (place name change es).map Prod.fst ↔ x = name ∨ x ∈ es.map Prod.fst := by
  induction es with
  | nil => simp [place]
  | cons e es ih =>
    unfold place
    split
    · simp_all
    · split
      · simp
      · simp only [List.map_cons, List.mem_cons, ih]
        grind

theorem ascending_place {name : String} {change : List String → List String} {es : List (String × List String)}
    (h : (es.map Prod.fst).Pairwise (· < ·)) : ((place name change es).map Prod.fst).Pairwise (· < ·) := by
  induction es with
  | nil => simp [place]
  | cons e es ih =>
    have hp := h
    rw [List.map_cons, List.pairwise_cons] at h
    unfold place
    split
    · exact hp
    · split
      · rename_i hlt
        refine List.pairwise_cons.mpr ⟨fun x hx => ?_, hp⟩
        rcases List.mem_cons.mp hx with rfl | hx
        · exact hlt
        · exact String.lt_trans hlt (h.1 x hx)
      · rename_i hne hlt
        refine List.pairwise_cons.mpr ⟨fun x hx => ?_, ih h.2⟩
        rcases mem_keys_place.mp hx with rfl | hx
        · exact Std.lt_of_le_of_ne (String.not_lt.mp hlt) (Ne.symm hne)
        · exact h.1 x hx

def change (m : AttributeMap) (name : String) (f : List String → List String) : AttributeMap :=
  ⟨place name f m.entries, ascending_place m.ascending⟩

def add (m : AttributeMap) (name value : String) : AttributeMap := m.change name (· ++ [value])

def set (m : AttributeMap) (name : String) (values : List String) : AttributeMap := m.change name fun _ => values

/-- The map of a list in which a later entry replaces an earlier one of its name. -/
def ofList (es : List (String × List String)) : AttributeMap :=
  es.foldl (fun m (name, values) => m.set name values) empty

end AttributeMap

structure SearchEntry where
  dn : String
  attributes : AttributeMap
deriving DecidableEq

namespace SearchEntry

def ofDn (dn : String) : SearchEntry := ⟨dn, .empty⟩

def add (e : SearchEntry) (name value : String) : SearchEntry := { e with attributes := e.attributes.add name value }

/-- The first value under the first name that is the same up to case. -/
def first (e : SearchEntry) (name : String) : Option String :=
  (e.attributes.entries.find? fun (key, _) => Text.sameIgnoringCase key name).bind fun (_, values) => values.head?

end SearchEntry

end DirectoryPull
