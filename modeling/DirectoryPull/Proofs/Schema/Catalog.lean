import DirectoryPull.Proofs.Client.AttributeFilter
import DirectoryPull.Proofs.Schema.FlagWord
import DirectoryPull.Schema.Recorded

/-!
# The filter over a schema in memory

The flag words of a definition go into its record as text and are read back from there, and names are looked up
in the whole list. Where every word fits into 32 bits and no name stands twice, what comes out are the ids of the
definitions that are wanted by their words alone.
-/

namespace DirectoryPull

open DirectoryPull.Action AttributeFilter

namespace AttributeDefinition

variable {word : Option Int64} {e : SearchEntry} {name : String}

/-! ## The record of a definition -/

theorem first_name (d : AttributeDefinition) (base : String) :
    (d.entry base readAttributes).first "lDAPDisplayName" = some d.name := by
  obtain ⟨name, id, _ | system, _ | search⟩ := d <;> rfl

theorem first_systemFlags (d : AttributeDefinition) (base : String) :
    (d.entry base readAttributes).first "systemFlags" = d.systemFlags.map fun w => Numeral.decimalInt w.toInt := by
  obtain ⟨name, id, _ | system, _ | search⟩ := d <;> rfl

theorem first_searchFlags (d : AttributeDefinition) (base : String) :
    (d.entry base readAttributes).first "searchFlags" = d.searchFlags.map fun w => Numeral.decimalInt w.toInt := by
  obtain ⟨name, id, _ | system, _ | search⟩ := d <;> rfl

/-! ## Its words -/

/-- There is no word, or it fits into 32 bits, signed or not. -/
def Fits (word : Option Int64) : Prop := ∀ w ∈ word, -0x80000000 ≤ w.toInt ∧ w.toInt ≤ 0xffffffff

/-- The words that are looked at fit. -/
def Readable (d : AttributeDefinition) : Prop :=
  Fits d.systemFlags ∧ (¬ NeverSent (flagsOf .system d.systemFlags).bits → Fits d.searchFlags)

instance (word : Option Int64) : Decidable (Fits word) := word.decidableForallMem

instance (d : AttributeDefinition) : Decidable d.Readable := inferInstanceAs (Decidable (_ ∧ (_ → _)))

theorem bits_flagsOf (kind : FlagKind) (w : Int64) : (flagsOf kind (some w)).bits = FlagWord.ofInt w.toInt := by
  have hsigned : w.toInt = (w.toUInt64.toNat : Int).bmod (2 ^ 64) := by
    rw [← Int64.toInt_toBitVec, BitVec.toInt_eq_toNat_bmod]
    rfl
  have hbound := w.toUInt64.toNat_lt
  unfold flagsOf FlagWord.ofInt
  rw [← UInt32.toNat_inj, UInt32.toNat_ofNat', UInt32.size, hsigned]
  simp only [Option.getD_some, UInt64.toNat_toUInt32]
  rw [Int.bmod_def]
  omega

theorem hasWord_decimal (kind : FlagKind) {bits : UInt32}
    (hfirst : e.first name = word.map fun w => Numeral.decimalInt w.toInt) (h : HasWord e name bits) :
    Fits word ∧ bits = (flagsOf kind word).bits := by
  rcases word with _ | w
  · rcases h with ⟨-, rfl⟩ | ⟨raw, hraw, -⟩
    · exact ⟨by simp [Fits], rfl⟩
    · simp [hfirst] at hraw
  · rcases h with ⟨hnone, -⟩ | ⟨raw, hraw, hread⟩
    · simp [hfirst] at hnone
    rw [hfirst, Option.map_some, Option.some.injEq] at hraw
    rw [← hraw, FlagWord.read_decimalInt, Option.ite_none_right_eq_some, FlagWord.inRange_iff] at hread
    constructor
    · simpa [Fits] using hread.1
    · rw [bits_flagsOf, Option.some.inj hread.2]

theorem unreadable_decimal {raw : String} (hfirst : e.first name = word.map fun w => Numeral.decimalInt w.toInt)
    (h : Unreadable e name raw) : ¬ Fits word := by
  intro hfits
  obtain ⟨hraw, hread⟩ := h
  rw [hfirst, Option.map_eq_some_iff] at hraw
  obtain ⟨w, rfl, rfl⟩ := hraw
  rw [FlagWord.read_decimalInt, if_pos ((FlagWord.inRange_iff _).mpr (hfits w rfl))] at hread
  simp at hread

theorem isWanted_iff (d : AttributeDefinition) :
    d.isWanted = true ↔
      ¬ NeverSent (flagsOf .system d.systemFlags).bits ∧ ¬ Withheld (flagsOf .search d.searchFlags).bits := by
  rw [← intersects_neverSent_iff, ← contains_filtered_iff]
  simp [isWanted]

/-- The id that a definition comes to. -/
def wantedId? (d : AttributeDefinition) : Option AttributeId := if d.isWanted then some ⟨d.id⟩ else none

variable {d : AttributeDefinition} {base : String}

theorem ruled_error {problem : SchemaError} (h : Ruled (d.entry base readAttributes) (.error problem)) :
    ¬ d.Readable := by
  rintro ⟨hsystem, hsearch⟩
  cases h with
  | nameless hname => simp [first_name] at hname
  | systemUnreadable hname hraw => exact unreadable_decimal (d.first_systemFlags base) hraw hsystem
  | searchUnreadable hname hword hsent hraw =>
    obtain ⟨-, rfl⟩ := hasWord_decimal .system (d.first_systemFlags base) hword
    exact unreadable_decimal (d.first_searchFlags base) hraw (hsearch hsent)

theorem ruled_ok {found : Option String} (h : Ruled (d.entry base readAttributes) (.ok found)) :
    d.Readable ∧ found = if d.isWanted then some d.name else none := by
  have hwanted := d.isWanted_iff
  cases h with
  | neverSent hname hword hsent =>
    obtain ⟨hfits, rfl⟩ := hasWord_decimal .system (d.first_systemFlags base) hword
    exact ⟨⟨hfits, fun hnot => absurd hsent hnot⟩, by rw [if_neg (by tauto)]⟩
  | withheld hname hword hsent hword' hshown =>
    obtain ⟨hfits, rfl⟩ := hasWord_decimal .system (d.first_systemFlags base) hword
    obtain ⟨hfits', rfl⟩ := hasWord_decimal .search (d.first_searchFlags base) hword'
    exact ⟨⟨hfits, fun _ => hfits'⟩, by rw [if_neg (by tauto)]⟩
  | wanted hname hword hsent hword' hshown =>
    obtain ⟨hfits, rfl⟩ := hasWord_decimal .system (d.first_systemFlags base) hword
    obtain ⟨hfits', rfl⟩ := hasWord_decimal .search (d.first_searchFlags base) hword'
    rw [first_name, Option.some.injEq] at hname
    exact ⟨⟨hfits, fun _ => hfits'⟩, by rw [if_pos (hwanted.mpr ⟨hsent, hshown⟩), hname]⟩

end AttributeDefinition

namespace SchemaCatalog

open AttributeDefinition

/-- No two definitions have names that are the same up to case. -/
def Unambiguous (ds : List AttributeDefinition) : Prop :=
  ds.Pairwise fun d e => Text.sameIgnoringCase d.name e.name = false

instance (ds : List AttributeDefinition) : Decidable (Unambiguous ds) :=
  inferInstanceAs (Decidable (ds.Pairwise _))

variable {c : SchemaCatalog} {d : AttributeDefinition} {ds : List AttributeDefinition} {w w' : RecordedSchema}

theorem find_name (hnames : Unambiguous ds) (hd : d ∈ ds) :
    ds.find? (fun e => Text.sameIgnoringCase e.name d.name) = some d := by
  induction ds with
  | nil => simp at hd
  | cons e ds ih =>
    obtain ⟨hfirst, hrest⟩ := List.pairwise_cons.mp hnames
    rw [List.find?_cons]
    rcases List.mem_cons.mp hd with rfl | hd
    · simp [Text.sameIgnoringCase]
    · simp only [hfirst d hd]
      exact ih hrest hd

theorem resolve_name (hnames : Unambiguous c.definitions) (hw : w.view = c.view) (hd : d ∈ c.definitions) :
    RecordedSchema.access.resolve d.name w = .ok ⟨d.id⟩ w := by
  simp [RecordedSchema.access, RecordedSchema.lookUp, hw, view, resolve, find_name hnames hd]

/-! ## One definition after the other -/

theorem settles_error {problem : SchemaError} (hnames : Unambiguous c.definitions) (hw : w.view = c.view)
    (hd : d ∈ c.definitions)
    (h : Settles RecordedSchema.access (d.entry c.base readAttributes) w (.error problem) w') : ¬ d.Readable := by
  cases h with
  | unusable hrule => exact ruled_error hrule
  | unresolved hrule hid =>
    obtain ⟨-, hname⟩ := ruled_ok hrule
    split at hname
    · rw [Option.some.inj hname, resolve_name hnames hw hd] at hid
      simp at hid
    · simp at hname

theorem settles_ok {id? : Option AttributeId} (hnames : Unambiguous c.definitions) (hw : w.view = c.view)
    (hd : d ∈ c.definitions)
    (h : Settles RecordedSchema.access (d.entry c.base readAttributes) w (.ok id?) w') :
    w' = w ∧ d.Readable ∧ id? = d.wantedId? := by
  unfold wantedId?
  cases h with
  | leftOut hrule =>
    obtain ⟨hreadable, hname⟩ := ruled_ok hrule
    split at hname
    · simp at hname
    · exact ⟨rfl, hreadable, by rw [if_neg ‹_›]⟩
  | resolved hrule hid =>
    obtain ⟨hreadable, hname⟩ := ruled_ok hrule
    split at hname
    · rw [Option.some.inj hname, resolve_name hnames hw hd] at hid
      simp only [EStateM.Result.ok.injEq] at hid
      exact ⟨hid.2.symm, hreadable, by rw [if_pos ‹_›, hid.1]⟩
    · simp at hname

theorem scans_entries {ids : List (Option AttributeId)} (hnames : Unambiguous c.definitions) (hw : w.view = c.view)
    (hds : ds ⊆ c.definitions)
    (h : Scans RecordedSchema.access w (ds.map (·.entry c.base readAttributes)) ids w') :
    w' = w ∧ (∀ d ∈ ds, d.Readable) ∧ ids = ds.map wantedId? := by
  induction ds generalizing ids with
  | nil =>
    cases h
    simp
  | cons d ds ih =>
    rw [List.cons_subset] at hds
    cases h with
    | next hfirst hrest =>
      obtain ⟨rfl, hreadable, rfl⟩ := settles_ok hnames hw hds.1 hfirst
      obtain ⟨rfl, hreadables, rfl⟩ := ih hds.2 hrest
      exact ⟨rfl, by simpa using ⟨hreadable, hreadables⟩, rfl⟩

theorem collects_entries {result : Except ReplicationError (List AttributeId)} (hnames : Unambiguous c.definitions)
    (hw : w.view = c.view)
    (h : Collects RecordedSchema.access w (c.definitions.map (·.entry c.base readAttributes)) result w') :
    ((∀ d ∈ c.definitions, d.Readable) ∧ result = .ok (c.definitions.map wantedId?).reduceOption) ∨
      (¬ ∀ d ∈ c.definitions, d.Readable) ∧ ∃ problem, result = .error problem := by
  cases h with
  | all hscan =>
    obtain ⟨-, hreadable, rfl⟩ := scans_entries hnames hw (List.Subset.refl _) hscan
    exact Or.inl ⟨hreadable, rfl⟩
  | fails hsplit hscan hfail =>
    obtain ⟨before, rest, hds, rfl, hrest⟩ := List.map_eq_append_iff.mp hsplit
    obtain ⟨d, after, rfl, rfl, -⟩ := List.map_eq_cons_iff.mp hrest
    have hd : d ∈ c.definitions := by simp [hds]
    obtain ⟨rfl, -⟩ := scans_entries hnames hw (by simp [hds]) hscan
    exact Or.inr ⟨fun hall => settles_error hnames hw hd hfail (hall d hd), _, rfl⟩

theorem search_query (havailable : c.unavailable = false) (searches : List SearchQuery) :
    RecordedSchema.access.search (query c.base) ⟨c.view, searches⟩ =
      .ok (c.definitions.map (·.entry c.base readAttributes)) ⟨c.view, searches ++ [query c.base]⟩ := by
  have hfind : c.find (query c.base) = .ok (c.definitions.map (·.entry c.base readAttributes)) := by
    simp [find, havailable, query, Text.sameIgnoringCase]
  change RecordedSchema.lookUp (fun s => s.view.find (query c.base)) ⟨c.view, searches ++ [query c.base]⟩ = _
  simp only [RecordedSchema.lookUp, view, hfind]

/-- **The filter over a schema in memory.** -/
theorem build_catalog (c : SchemaCatalog) (havailable : c.unavailable = false) (hnames : Unambiguous c.definitions)
    (searches : List SearchQuery) (log : List Event) :
    ∃ result after, Yields (build RecordedSchema.access) ⟨⟨c.view, searches⟩, log⟩ result after ∧
      ((∃ set, result = .ok set) ↔ ∀ d ∈ c.definitions, d.Readable) ∧
      ∀ set, result = .ok set → ∀ id,
        set.contains ⟨id⟩ = true ↔ ∃ d ∈ c.definitions, d.id = id ∧ d.isWanted = true := by
  obtain ⟨collected, after, hrun, hcollects⟩ := collect_yields RecordedSchema.access
    (c.definitions.map (·.entry c.base readAttributes)) ⟨c.view, searches ++ [query c.base]⟩
  refine ⟨_, after, yields_build rfl (search_query havailable searches) hrun, ?_⟩
  rcases collects_entries hnames rfl hcollects with ⟨hreadable, rfl⟩ | ⟨hnot, problem, rfl⟩
  · refine ⟨⟨fun _ => hreadable, fun _ => ⟨_, rfl⟩⟩, ?_⟩
    rintro set heq id
    obtain rfl := Except.ok.inj heq
    rw [contains_ofList_iff, List.mem_map]
    simp [wantedId?, and_comm]
  · refine ⟨⟨fun ⟨set, heq⟩ => by simp [Except.map] at heq, fun hall => absurd hall hnot⟩, ?_⟩
    rintro set heq
    simp [Except.map] at heq

/-- Two names for one id, a sign bit, and search flags beyond 32 bits that are not looked at. -/
def mixed : SchemaCatalog :=
  ⟨"CN=Schema", [⟨"cn", 3, none, none⟩, ⟨"Alias", 3, some (-0x80000000), some 1⟩, ⟨"secret", 5, none, some 0x200⟩,
    ⟨"computed", 7, some 4, some 0x10000000000⟩], false⟩

theorem build_catalog_mixed :
    mixed.unavailable = false ∧ Unambiguous mixed.definitions ∧
      ∃ set after, Yields (build RecordedSchema.access) ⟨⟨mixed.view, []⟩, []⟩ (.ok set) after ∧
        set.contains ⟨3⟩ = true ∧ set.contains ⟨5⟩ = false ∧ set.contains ⟨7⟩ = false := by
  have hnames : Unambiguous mixed.definitions := by decide
  obtain ⟨result, after, hrun, hresult, hset⟩ := build_catalog mixed rfl hnames [] []
  obtain ⟨set, rfl⟩ := hresult.mpr (by decide)
  refine ⟨rfl, hnames, set, after, hrun, ?_⟩
  have hmember := hset set rfl
  refine ⟨(hmember 3).mpr ?_, ?_, ?_⟩
  · decide
  · rw [← Bool.not_eq_true, hmember]
    decide
  · rw [← Bool.not_eq_true, hmember]
    decide

end SchemaCatalog

end DirectoryPull
