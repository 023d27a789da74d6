import DirectoryPull.Proofs.Client.AttributeFilter
import DirectoryPull.Proofs.Form.Values
import DirectoryPull.Schema.Recorded
import Mathlib.Data.List.Nodup

/-!
# Values that a record holds

A record may have several keys that are one name up to case. A look-up sees the lowest of them and no other: where that
one has an empty list, the values of the others are not found, and flags among them do not count.
-/

namespace DirectoryPull

open DirectoryPull.Action

/-! ## Keys in order -/

namespace AttributeMap

theorem lowest_of_find {m : AttributeMap} {p : String → Bool} {entry : String × List String}
    (h : m.entries.find? (fun entry => p entry.1) = some entry) :
    ∀ other ∈ m.entries, p other.1 = true → entry.1 ≤ other.1 := by
  obtain ⟨-, before, after, hentries, hbefore⟩ := List.find?_eq_some_iff_append.mp h
  have hascending := m.ascending
  rw [hentries, List.map_append, List.map_cons, List.pairwise_append, List.pairwise_cons] at hascending
  obtain ⟨-, ⟨habove, -⟩, -⟩ := hascending
  rw [hentries]
  intro other hother hp
  rcases List.mem_append.mp hother with hother | hother
  · have hnot := hbefore other hother
    simp [hp] at hnot
  · rcases List.mem_cons.mp hother with rfl | hother
    · exact Std.le_refl _
    · exact Std.le_of_lt (habove other.1 (List.mem_map_of_mem hother))

theorem eq_of_key {m : AttributeMap} {entry other : String × List String} (h : entry ∈ m.entries)
    (h' : other ∈ m.entries) (hkey : entry.1 = other.1) : entry = other := by
  have hnodup : (m.entries.map Prod.fst).Nodup := m.ascending.imp (fun hlt heq => by simp [heq] at hlt)
  exact List.inj_on_of_nodup_map hnodup h h' hkey

theorem mem_place {name : String} {change : List String → List String} {es : List (String × List String)}
    {entry : String × List String} (h : entry ∈ place name change es) :
    entry ∈ es ∨ ∃ values, entry.2 = change values := by
  induction es with
  | nil => exact Or.inr ⟨[], congrArg Prod.snd (List.mem_singleton.mp h)⟩
  | cons first rest ih =>
    unfold place at h
    split at h
    · rcases List.mem_cons.mp h with rfl | h
      · exact Or.inr ⟨_, rfl⟩
      · exact Or.inl (List.mem_cons_of_mem _ h)
    · split at h
      · rcases List.mem_cons.mp h with rfl | h
        · exact Or.inr ⟨_, rfl⟩
        · exact Or.inl h
      · rcases List.mem_cons.mp h with rfl | h
        · exact Or.inl List.mem_cons_self
        · exact (ih h).imp_left (List.mem_cons_of_mem _)

end AttributeMap

namespace SearchEntry

variable {e : SearchEntry} {name value : String} {entry : String × List String}

/-- The value lies under the name, in whatever case its key is written. -/
def Holds (e : SearchEntry) (name value : String) : Prop :=
  ∃ entry ∈ e.attributes.entries, Text.sameIgnoringCase entry.1 name = true ∧ value ∈ entry.2

/-- Of the keys that are the name up to case, that of the entry is the lowest. -/
structure Leads (e : SearchEntry) (name : String) (entry : String × List String) : Prop where
  mem : entry ∈ e.attributes.entries
  named : Text.sameIgnoringCase entry.1 name = true
  lowest : ∀ other ∈ e.attributes.entries, Text.sameIgnoringCase other.1 name = true → entry.1 ≤ other.1

/-- There are values under the name, but the lowest key has none of them. -/
structure Shadowed (e : SearchEntry) (name : String) : Prop where
  hollow : ∃ key, e.Leads name (key, [])
  held : ∃ value, e.Holds name value

theorem Leads.unique {other : String × List String} (h : e.Leads name entry) (h' : e.Leads name other) :
    entry = other :=
  AttributeMap.eq_of_key h.mem h'.mem
    (Std.le_antisymm (h.lowest other h'.mem h'.named) (h'.lowest entry h.mem h.named))

theorem first_cases (e : SearchEntry) (name : String) :
    (e.first name = none ∧ ¬ ∃ value, e.Holds name value) ∨
      ∃ entry, e.Leads name entry ∧ e.first name = entry.2.head? := by
  unfold first
  cases hfind : e.attributes.entries.find? fun entry => Text.sameIgnoringCase entry.1 name with
  | none =>
    rw [List.find?_eq_none] at hfind
    refine Or.inl ⟨rfl, ?_⟩
    rintro ⟨value, entry, hentry, hnamed, -⟩
    exact hfind entry hentry hnamed
  | some entry =>
    have hnamed : Text.sameIgnoringCase entry.1 name = true := by simpa using List.find?_some hfind
    have hlowest := AttributeMap.lowest_of_find (p := fun key => Text.sameIgnoringCase key name) hfind
    exact Or.inr ⟨entry, ⟨List.mem_of_find?_eq_some hfind, hnamed, hlowest⟩, rfl⟩

theorem holds_of_first (h : e.first name = some value) : e.Holds name value := by
  rcases e.first_cases name with ⟨hnone, -⟩ | ⟨entry, hleads, hfirst⟩
  · simp [hnone] at h
  · exact ⟨entry, hleads.mem, hleads.named, List.mem_of_mem_head? (hfirst ▸ h)⟩

theorem first_eq_none_iff :
    e.first name = none ↔ (¬ ∃ value, e.Holds name value) ∨ e.Shadowed name := by
  rcases e.first_cases name with ⟨hnone, hheld⟩ | ⟨⟨key, values⟩, hleads, hfirst⟩
  · simp only [hnone, true_iff]
    exact Or.inl hheld
  · rw [hfirst, List.head?_eq_none_iff]
    constructor
    · rintro rfl
      by_cases hheld : ∃ value, e.Holds name value
      · exact Or.inr ⟨⟨key, hleads⟩, hheld⟩
      · exact Or.inl hheld
    · rintro (hnot | ⟨⟨key', hhollow⟩, -⟩)
      · apply List.eq_nil_iff_forall_not_mem.mpr
        intro value hvalue
        exact hnot ⟨value, (key, values), hleads.mem, hleads.named, hvalue⟩
      · exact congrArg Prod.snd (hleads.unique hhollow)

/-! ## Records built by adding values -/

/-- No key has an empty list. -/
def Filled (e : SearchEntry) : Prop := ∀ entry ∈ e.attributes.entries, entry.2 ≠ []

/-- A record with these values, added in this order. -/
def ofAdded (dn : String) (added : List (String × String)) : SearchEntry :=
  added.foldl (fun e (name, value) => e.add name value) (ofDn dn)

theorem Filled.add (h : e.Filled) (name value : String) : (e.add name value).Filled := by
  intro entry hentry
  rcases AttributeMap.mem_place hentry with hold | ⟨values, hnew⟩
  · exact h entry hold
  · rw [hnew]
    exact List.append_ne_nil_of_right_ne_nil _ (by simp)

theorem filled_ofAdded (dn : String) (added : List (String × String)) : (ofAdded dn added).Filled := by
  unfold ofAdded
  have hfilled : (ofDn dn).Filled := fun _ hentry => absurd hentry (List.not_mem_nil)
  generalize ofDn dn = e at hfilled ⊢
  induction added generalizing e with
  | nil => exact hfilled
  | cons first added ih => exact ih _ (hfilled.add _ _)

theorem Filled.not_shadowed (h : e.Filled) : ¬ e.Shadowed name := by
  rintro ⟨⟨key, hleads⟩, -⟩
  exact h (key, []) hleads.mem rfl

end SearchEntry

/-! ## Withheld attributes -/

namespace AttributeFilter

variable {e : SearchEntry} {name : String} {W : Type} {schema : SchemaAccess W}

/-- The only search flags that the record holds withhold its attribute from read-only replicas. -/
def HoldsWithheld (e : SearchEntry) : Prop :=
  ∃ raw word, (∀ value, e.Holds "searchFlags" value ↔ value = raw) ∧ FlagWord.read? raw = some word ∧ Withheld word

theorem HasWord.unique {word word' : UInt32} (h : HasWord e name word) (h' : HasWord e name word') : word = word' :=
  Except.ok.inj (h.ofEntry.symm.trans h'.ofEntry)

theorem ofEntry_ok_iff_hasWord {word : UInt32} : FlagWord.ofEntry e name = .ok word ↔ HasWord e name word := by
  refine ⟨fun h => ?_, HasWord.ofEntry⟩
  rcases ofEntry_cases e name with ⟨raw, -, hread⟩ | ⟨word', hword, hread⟩
  · rw [hread] at h
    contradiction
  · rw [hread] at h
    exact Except.ok.inj h ▸ hword

theorem HoldsWithheld.hasWord (h : HoldsWithheld e) (hnot : ¬ e.Shadowed "searchFlags") :
    ∃ word, HasWord e "searchFlags" word ∧ Withheld word := by
  obtain ⟨raw, word, hheld, hread, hword⟩ := h
  refine ⟨word, Or.inr ⟨raw, ?_, hread⟩, hword⟩
  cases hfirst : e.first "searchFlags" with
  | none =>
    rcases SearchEntry.first_eq_none_iff.mp hfirst with hnone | hshadowed
    · exact absurd ⟨raw, (hheld raw).mpr rfl⟩ hnone
    · exact absurd hshadowed hnot
  | some value => rw [(hheld value).mp (SearchEntry.holds_of_first hfirst)]

theorem shadowed_of_wanted (h : Ruled e (.ok (some name))) (hheld : HoldsWithheld e) : e.Shadowed "searchFlags" := by
  by_contra hnot
  obtain ⟨word, hword, hwithheld⟩ := hheld.hasWord hnot
  cases h with
  | wanted _ _ _ hsearch hshown =>
    rw [hsearch.unique hword] at hshown
    exact hshown hwithheld

theorem Scans.exists_wanted {w w' : W} {es : List SearchEntry} {ids : List (Option AttributeId)} {id : AttributeId}
    (h : Scans schema w es ids w') (hid : some id ∈ ids) :
    ∃ e ∈ es, ∃ name u u', Ruled e (.ok (some name)) ∧ schema.resolve name u = .ok id u' := by
  induction h with
  | done => exact absurd hid (List.not_mem_nil)
  | next hfirst _ ih =>
    rcases List.mem_cons.mp hid with rfl | hid
    · cases hfirst with
      | resolved hrule hresolve => exact ⟨_, List.mem_cons_self, _, _, _, hrule, hresolve⟩
    · obtain ⟨e, he, hwanted⟩ := ih hid
      exact ⟨e, List.mem_cons_of_mem _ he, hwanted⟩

theorem exists_record_of_build {scene : Scene W} {base : String} {w₁ w₂ after : W} {es : List SearchEntry}
    {set : AttributeSet} {id : AttributeId} (hbase : schema.base scene.world = .ok base w₁)
    (hsearch : schema.search (query base) w₁ = .ok es w₂) (hrun : Yields (build schema) scene (.ok set) after)
    (hid : set.contains id = true) :
    ∃ e ∈ es, ∃ name u u', Ruled e (.ok (some name)) ∧ schema.resolve name u = .ok id u' := by
  obtain ⟨collected, after', hcollect, hcollects⟩ := collect_yields schema es w₂
  have hresult := (yields_build hbase hsearch hcollect).unique hrun
  cases hcollects with
  | fails => simp [Except.map] at hresult
  | all hscan =>
    obtain rfl := Except.ok.inj hresult
    exact hscan.exists_wanted ((contains_ofList_iff _ id).mp hid)

theorem other_record_of_build {scene : Scene W} {base : String} {w₁ w₂ after : W} {es : List SearchEntry}
    {set : AttributeSet} {id : AttributeId} (hheld : HoldsWithheld e) (hnot : ¬ e.Shadowed "searchFlags")
    (hbase : schema.base scene.world = .ok base w₁) (hsearch : schema.search (query base) w₁ = .ok es w₂)
    (hrun : Yields (build schema) scene (.ok set) after) (hid : set.contains id = true) :
    ∃ e' ∈ es, e' ≠ e ∧ ∃ name u u', e'.first "lDAPDisplayName" = some name ∧ schema.resolve name u = .ok id u' := by
  obtain ⟨e', he', name, u, u', hrule, hresolve⟩ := exists_record_of_build hbase hsearch hrun hid
  refine ⟨e', he', ?_, name, u, u', ?_, hresolve⟩
  · rintro rfl
    exact hnot (shadowed_of_wanted hrule hheld)
  · cases hrule with
    | wanted hname => exact hname

/-- **Stored values.** -/
theorem absent_unless_shadowed (e : SearchEntry) (name : String) :
    ((e.first name = none ↔ ¬ ∃ value, e.Holds name value) ↔ ¬ e.Shadowed name) ∧
    (∀ dn added, e = SearchEntry.ofAdded dn added → ¬ e.Shadowed name) ∧
    (∀ word, FlagWord.ofEntry e name = .ok word ↔
      (∃ raw, e.first name = some raw ∧ FlagWord.read? raw = some word) ∨
      word = 0 ∧ ((¬ ∃ value, e.Holds name value) ∨ e.Shadowed name)) ∧
    (HoldsWithheld e ∧ ¬ e.Shadowed "searchFlags" →
      ∀ {W : Type} {schema : SchemaAccess W} {scene : Scene W} {base : String} {w₁ w₂ after : W}
        {es : List SearchEntry} {set : AttributeSet} {id : AttributeId},
        schema.base scene.world = .ok base w₁ → schema.search (query base) w₁ = .ok es w₂ →
        Yields (build schema) scene (.ok set) after → set.contains id = true →
        ∃ e' ∈ es, e' ≠ e ∧
          ∃ name u u', e'.first "lDAPDisplayName" = some name ∧ schema.resolve name u = .ok id u') := by
  refine ⟨?found, ?added, ?word, ?built⟩
  case found =>
    rw [SearchEntry.first_eq_none_iff]
    have hheld : e.Shadowed name → ∃ value, e.Holds name value := SearchEntry.Shadowed.held
    tauto
  case added =>
    rintro dn added rfl
    exact (SearchEntry.filled_ofAdded dn added).not_shadowed
  case word =>
    intro word
    rw [ofEntry_ok_iff_hasWord, HasWord, SearchEntry.first_eq_none_iff, or_comm, and_comm]
  case built =>
    rintro ⟨hheld, hnot⟩
    exact other_record_of_build hheld hnot

/-- The flags lie under one of two keys that are the same name, and the lower one has none. -/
def shadowedEntry : SearchEntry :=
  ⟨"CN=secret", .ofList [("lDAPDisplayName", ["secret"]), ("SearchFlags", []), ("searchFlags", ["512"])]⟩

def shadowedView : SchemaView := ⟨.ok "CN=Schema", fun _ => .ok [shadowedEntry], fun _ => .ok ⟨5⟩⟩

/-- The record may come from JSON. Its one attribute is asked for, although its flags withhold it. -/
theorem withheld_attribute_wanted :
    (∃ text, SearchEntry.codec.read text = .ok shadowedEntry) ∧
    ¬ (shadowedEntry.first "searchFlags" = none ↔ ¬ ∃ value, shadowedEntry.Holds "searchFlags" value) ∧
    HoldsWithheld shadowedEntry ∧ FlagWord.ofEntry shadowedEntry "searchFlags" = .ok 0 ∧
    ∃ set after, Yields (build RecordedSchema.access) ⟨⟨shadowedView, []⟩, []⟩ (.ok set) after ∧
      set.contains ⟨5⟩ = true := by
  have hfirst : shadowedEntry.first "searchFlags" = none := rfl
  have hholds : ∀ value, shadowedEntry.Holds "searchFlags" value ↔ value = "512" := by
    have hall : ∀ entry ∈ shadowedEntry.attributes.entries, Text.sameIgnoringCase entry.1 "searchFlags" = true →
        ∀ value ∈ entry.2, value = "512" := by decide
    intro value
    constructor
    · rintro ⟨entry, hentry, hnamed, hvalue⟩
      exact hall entry hentry hnamed value hvalue
    · rintro rfl
      exact ⟨("searchFlags", ["512"]), by decide, by decide, by decide⟩
  refine ⟨⟨_, (SearchEntry.codec_flat 0).read_write (by decide) shadowedEntry⟩, ?absent, ?withheld, rfl, ?built⟩
  case absent =>
    rw [hfirst]
    exact fun h => h.mp rfl ⟨"512", (hholds "512").mpr rfl⟩
  case withheld => exact ⟨"512", 0x200, hholds, by decide, by decide⟩
  case built =>
    refine ⟨.ofList [⟨5⟩], _, ⟨_, rfl⟩, ?_⟩
    rw [AttributeSet.contains_iff, AttributeSet.mem_ofList]
    simp

end AttributeFilter

end DirectoryPull
