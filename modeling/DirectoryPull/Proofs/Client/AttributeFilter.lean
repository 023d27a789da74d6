import DirectoryPull.Proofs.Pull.Steps
import DirectoryPull.Proofs.Value.AttributeSet
import Mathlib.Data.List.ReduceOption
import Mathlib.Data.Nat.Bitwise

/-!
# What a read-only replica asks for

The records of the schema are gone through in order. The first one that cannot be used ends the search for
attributes; if there is none, the set has the ids of exactly those attributes that nothing keeps out.
-/

namespace DirectoryPull.AttributeFilter

open DirectoryPull.Action

/-! ## Flag words -/

/-- There is a value under the name, but it is no 32-bit number. -/
def Unreadable (e : SearchEntry) (name raw : String) : Prop := e.first name = some raw ∧ FlagWord.read? raw = none

/-- The word under a name. Where there is no value, no bit is set. -/
def HasWord (e : SearchEntry) (name : String) (word : UInt32) : Prop :=
  (e.first name = none ∧ word = 0) ∨ ∃ raw, e.first name = some raw ∧ FlagWord.read? raw = some word

def NeverSent (system : UInt32) : Prop := system &&& 0x00000001 ≠ 0 ∨ system &&& 0x00000004 ≠ 0

instance (system : UInt32) : Decidable (NeverSent system) := inferInstanceAs (Decidable (_ ∨ _))

def Withheld (search : UInt32) : Prop := search &&& 0x00000200 ≠ 0

instance (search : UInt32) : Decidable (Withheld search) := inferInstanceAs (Decidable (_ ≠ _))

theorem intersects_neverSent_iff (word : UInt32) :
    (⟨word⟩ : SystemFlags).intersects SystemFlags.neverSent = true ↔ NeverSent word := by
  have hsplit : word &&& 0x00000005 = word &&& 0x00000001 ||| word &&& 0x00000004 := by
    rw [← UInt32.toNat_inj]
    simp only [UInt32.toNat_and, UInt32.toNat_or]
    exact Nat.and_or_distrib_left word.toNat 1 4
  have hbits : SystemFlags.neverSent.bits = 0x00000005 := by decide
  rw [Flags.intersects, hbits, hsplit, bne_iff_ne, ne_eq, UInt32.or_eq_zero_iff, NeverSent,
    Classical.not_and_iff_not_or_not]

theorem contains_filtered_iff (word : UInt32) :
    (⟨word⟩ : SearchFlags).contains SearchFlags.filtered = true ↔ Withheld word := by
  have hbits : SearchFlags.filtered.bits = 0x00000200 := by decide
  have hbit : word.toNat &&& 2 ^ 9 = (word.toNat.testBit 9).toNat * 2 ^ 9 := Nat.and_two_pow _ _
  rw [Flags.contains, hbits, beq_iff_eq, Withheld, ne_eq, ← UInt32.toNat_inj, ← UInt32.toNat_inj, UInt32.toNat_and]
  change word.toNat &&& 2 ^ 9 = 2 ^ 9 ↔ ¬ word.toNat &&& 2 ^ 9 = 0
  rw [hbit]
  cases word.toNat.testBit 9 <;> decide

theorem Unreadable.ofEntry {e : SearchEntry} {name raw : String} (h : Unreadable e name raw) :
    FlagWord.ofEntry e name = .error (.malformed e.dn s!"{name} is not a 32-bit integer: {raw}") := by
  unfold FlagWord.ofEntry
  simp only [h.1, h.2]

theorem HasWord.ofEntry {e : SearchEntry} {name : String} {word : UInt32} (h : HasWord e name word) :
    FlagWord.ofEntry e name = .ok word := by
  unfold FlagWord.ofEntry
  rcases h with ⟨hfirst, rfl⟩ | ⟨raw, hfirst, hread⟩
  · simp only [hfirst]
  · simp only [hfirst, hread]

theorem ofEntry_cases (e : SearchEntry) (name : String) :
    (∃ raw, Unreadable e name raw ∧
      FlagWord.ofEntry e name = .error (.malformed e.dn s!"{name} is not a 32-bit integer: {raw}")) ∨
    ∃ word, HasWord e name word ∧ FlagWord.ofEntry e name = .ok word := by
  cases hfirst : e.first name with
  | none =>
    have hword : HasWord e name 0 := Or.inl ⟨hfirst, rfl⟩
    exact Or.inr ⟨0, hword, hword.ofEntry⟩
  | some raw =>
    cases hread : FlagWord.read? raw with
    | none =>
      have hraw : Unreadable e name raw := ⟨hfirst, hread⟩
      exact Or.inl ⟨raw, hraw, hraw.ofEntry⟩
    | some word =>
      have hword : HasWord e name word := Or.inr ⟨raw, hfirst, hread⟩
      exact Or.inr ⟨word, hword, hword.ofEntry⟩

/-! ## One record -/

/-- The rule on a record: it cannot be used, its attribute is left out, or the attribute of a name is asked for. -/
inductive Ruled (e : SearchEntry) : Except SchemaError (Option String) → Prop
  | nameless (hname : e.first "lDAPDisplayName" = none) :
    Ruled e (.error (.malformed e.dn "missing lDAPDisplayName"))
  | systemUnreadable {name raw : String} (hname : e.first "lDAPDisplayName" = some name)
      (hsystem : Unreadable e "systemFlags" raw) :
    Ruled e (.error (.malformed e.dn s!"systemFlags is not a 32-bit integer: {raw}"))
  | neverSent {name : String} {system : UInt32} (hname : e.first "lDAPDisplayName" = some name)
      (hsystem : HasWord e "systemFlags" system) (hsent : NeverSent system) :
    Ruled e (.ok none)
  | searchUnreadable {name raw : String} {system : UInt32} (hname : e.first "lDAPDisplayName" = some name)
      (hsystem : HasWord e "systemFlags" system) (hsent : ¬ NeverSent system)
      (hsearch : Unreadable e "searchFlags" raw) :
    Ruled e (.error (.malformed e.dn s!"searchFlags is not a 32-bit integer: {raw}"))
  | withheld {name : String} {system search : UInt32} (hname : e.first "lDAPDisplayName" = some name)
      (hsystem : HasWord e "systemFlags" system) (hsent : ¬ NeverSent system)
      (hsearch : HasWord e "searchFlags" search) (hshown : Withheld search) :
    Ruled e (.ok none)
  | wanted {name : String} {system search : UInt32} (hname : e.first "lDAPDisplayName" = some name)
      (hsystem : HasWord e "systemFlags" system) (hsent : ¬ NeverSent system)
      (hsearch : HasWord e "searchFlags" search) (hshown : ¬ Withheld search) :
    Ruled e (.ok (some name))

def Verdict.wanted? : Verdict → Option String
  | wanted name => some name
  | notSent _ _ | filtered _ => none

/-- The verdict on a record, with what it goes by. -/
inductive Judged (e : SearchEntry) : Except SchemaError Verdict → Prop
  | unusable {problem : SchemaError} (hrule : Ruled e (.error problem)) : Judged e (.error problem)
  | neverSent {name : String} {system : UInt32} (hname : e.first "lDAPDisplayName" = some name)
      (hsystem : HasWord e "systemFlags" system) (hsent : NeverSent system) :
    Judged e (.ok (.notSent name ⟨system⟩))
  | withheld {name : String} {system search : UInt32} (hname : e.first "lDAPDisplayName" = some name)
      (hsystem : HasWord e "systemFlags" system) (hsent : ¬ NeverSent system)
      (hsearch : HasWord e "searchFlags" search) (hshown : Withheld search) :
    Judged e (.ok (.filtered name))
  | wanted {name : String} (hrule : Ruled e (.ok (some name))) : Judged e (.ok (.wanted name))

theorem judged_verdict (e : SearchEntry) : Judged e (verdict e) := by
  unfold verdict
  cases hname : e.first "lDAPDisplayName" with
  | none => exact .unusable (.nameless hname)
  | some name =>
    rcases ofEntry_cases e "systemFlags" with ⟨raw, hsystem, hread⟩ | ⟨system, hsystem, hread⟩
    · simp only [hread]
      exact .unusable (.systemUnreadable hname hsystem)
    simp only [hread]
    by_cases hsent : NeverSent system
    · have hflags := (intersects_neverSent_iff system).mpr hsent
      simp only [bind, Except.bind, hflags]
      exact .neverSent hname hsystem hsent
    have hflags := mt (intersects_neverSent_iff system).mp hsent
    rcases ofEntry_cases e "searchFlags" with ⟨raw, hsearch, hread'⟩ | ⟨search, hsearch, hread'⟩
    · simp only [bind, Except.bind, hflags, hread']
      exact .unusable (.searchUnreadable hname hsystem hsent hsearch)
    simp only [bind, Except.bind, hflags, hread']
    by_cases hshown : Withheld search
    · have hflags' := (contains_filtered_iff search).mpr hshown
      simp only [hflags']
      exact .withheld hname hsystem hsent hsearch hshown
    · have hflags' := mt (contains_filtered_iff search).mp hshown
      simp only [hflags']
      exact .wanted (.wanted hname hsystem hsent hsearch hshown)

theorem Judged.ruled {e : SearchEntry} {v : Except SchemaError Verdict} (h : Judged e v) :
    Ruled e (v.map Verdict.wanted?) := by
  cases h with
  | unusable hrule | wanted hrule => exact hrule
  | neverSent hname hsystem hsent => exact .neverSent hname hsystem hsent
  | withheld hname hsystem hsent hsearch hshown => exact .withheld hname hsystem hsent hsearch hshown

theorem ruled_verdict (e : SearchEntry) : Ruled e ((verdict e).map Verdict.wanted?) := (judged_verdict e).ruled

theorem Ruled.verdict {e : SearchEntry} {rule : Except SchemaError (Option String)} (h : Ruled e rule) :
    (AttributeFilter.verdict e).map Verdict.wanted? = rule := by
  unfold AttributeFilter.verdict
  cases h with
  | nameless hname =>
    simp only [hname]
    rfl
  | systemUnreadable hname hsystem =>
    simp only [hname, hsystem.ofEntry]
    rfl
  | neverSent hname hsystem hsent =>
    have hflags := (intersects_neverSent_iff _).mpr hsent
    simp only [hname, hsystem.ofEntry, bind, Except.bind, hflags]
    rfl
  | searchUnreadable hname hsystem hsent hsearch =>
    have hflags := mt (intersects_neverSent_iff _).mp hsent
    simp only [hname, hsystem.ofEntry, hsearch.ofEntry, bind, Except.bind, hflags]
    rfl
  | withheld hname hsystem hsent hsearch hshown =>
    have hflags := mt (intersects_neverSent_iff _).mp hsent
    have hflags' := (contains_filtered_iff _).mpr hshown
    simp only [hname, hsystem.ofEntry, hsearch.ofEntry, bind, Except.bind, hflags, hflags']
    rfl
  | wanted hname hsystem hsent hsearch hshown =>
    have hflags := mt (intersects_neverSent_iff _).mp hsent
    have hflags' := mt (contains_filtered_iff _).mp hshown
    simp only [hname, hsystem.ofEntry, hsearch.ofEntry, bind, Except.bind, hflags, hflags']
    rfl

/-! ## All records -/

variable {W : Type} {schema : SchemaAccess W}

/-- What a record comes to, with the surroundings before and after. Only a name that is asked for is looked up. -/
inductive Settles (schema : SchemaAccess W) (e : SearchEntry) : W → Except SchemaError (Option AttributeId) → W → Prop
  | unusable {w : W} {problem : SchemaError} (hrule : Ruled e (.error problem)) : Settles schema e w (.error problem) w
  | leftOut {w : W} (hrule : Ruled e (.ok none)) : Settles schema e w (.ok none) w
  | unresolved {w w' : W} {name : String} {problem : SchemaError} (hrule : Ruled e (.ok (some name)))
      (hid : schema.resolve name w = .error problem w') : Settles schema e w (.error problem) w'
  | resolved {w w' : W} {name : String} {id : AttributeId} (hrule : Ruled e (.ok (some name)))
      (hid : schema.resolve name w = .ok id w') : Settles schema e w (.ok (some id)) w'

/-- None of the records fails; each of them comes to an id or is left out. -/
inductive Scans (schema : SchemaAccess W) : W → List SearchEntry → List (Option AttributeId) → W → Prop
  | done {w : W} : Scans schema w [] [] w
  | next {w w' w'' : W} {e : SearchEntry} {es : List SearchEntry} {id? : Option AttributeId}
      {ids : List (Option AttributeId)} (hfirst : Settles schema e w (.ok id?) w')
      (hrest : Scans schema w' es ids w'') :
    Scans schema w (e :: es) (id? :: ids) w''

/-- How the records are gone through: to the end, or up to the first one that fails. -/
inductive Collects (schema : SchemaAccess W) (w : W) (es : List SearchEntry) :
    Except ReplicationError (List AttributeId) → W → Prop
  | all {ids : List (Option AttributeId)} {w' : W} (hscan : Scans schema w es ids w') :
    Collects schema w es (.ok ids.reduceOption) w'
  | fails {before after : List SearchEntry} {e : SearchEntry} {ids : List (Option AttributeId)} {w' w'' : W}
      {problem : SchemaError} (hsplit : es = before ++ e :: after) (hscan : Scans schema w before ids w')
      (hfail : Settles schema e w' (.error problem) w'') :
    Collects schema w es (.error (.schema problem)) w''

theorem Collects.cons {w w' w'' : W} {e : SearchEntry} {es : List SearchEntry} {id? : Option AttributeId}
    {result : Except ReplicationError (List AttributeId)} (hfirst : Settles schema e w (.ok id?) w')
    (h : Collects schema w' es result w'') : Collects schema w (e :: es) (result.map (id?.toList ++ ·)) w'' := by
  cases h with
  | all hscan =>
    have hall := Collects.all (.next hfirst hscan)
    cases id? <;> exact hall
  | fails hsplit hscan hfail => exact .fails (by rw [hsplit]; rfl) (.next hfirst hscan) hfail

theorem collect_yields (schema : SchemaAccess W) (es : List SearchEntry) (w : W) :
    ∃ result after, (∀ log, Yields (collect schema es) ⟨w, log⟩ result after) ∧ Collects schema w es result after := by
  induction es generalizing w with
  | nil => exact ⟨_, _, fun _ => yields_pure _ _, .all .done⟩
  | cons e es ih =>
    have hrule := ruled_verdict e
    unfold collect
    cases hverdict : verdict e with
    | error problem =>
      rw [hverdict] at hrule
      exact ⟨_, _, fun log => ⟨log, rfl⟩, .fails (List.nil_append _).symm .done (.unusable hrule)⟩
    | ok v =>
      rw [hverdict] at hrule
      cases v with
      | notSent | filtered =>
        obtain ⟨result, after, hrun, hrest⟩ := ih w
        have hrest := hrest.cons (.leftOut hrule)
        refine ⟨_, after, fun _ => yields_bind (yields_note _ _) hrun, ?_⟩
        cases result <;> exact hrest
      | wanted name =>
        cases hid : schema.resolve name w with
        | error problem w' =>
          exact ⟨_, _, fun _ => yields_bind_error (yields_ask_error hid),
            .fails (List.nil_append _).symm .done (.unresolved hrule hid)⟩
        | ok id w' =>
          obtain ⟨result, after, hrun, hrest⟩ := ih w'
          have hrest := hrest.cons (.resolved hrule hid)
          refine ⟨_, after, fun _ => yields_bind (yields_ask hid) fun log => ?_, hrest⟩
          cases result with
          | error problem => exact yields_bind_error (hrun log)
          | ok ids => exact yields_bind (hrun log) fun _ => yields_pure _ _

/-! ## The whole set -/

/-- What becomes of the set: there is nothing to search, the search fails, a record fails, or it is built. -/
inductive Builds (schema : SchemaAccess W) (w : W) : Except ReplicationError AttributeSet → W → Prop
  | baseless {w' : W} {problem : SchemaError} (hbase : schema.base w = .error problem w') :
    Builds schema w (.error (.schema problem)) w'
  | unsearched {w₁ w' : W} {base : String} {problem : SchemaError} (hbase : schema.base w = .ok base w₁)
      (hsearch : schema.search (query base) w₁ = .error problem w') :
    Builds schema w (.error (.schema problem)) w'
  | fails {w₁ w₂ w₃ w' : W} {base : String} {before after : List SearchEntry} {e : SearchEntry}
      {ids : List (Option AttributeId)} {problem : SchemaError} (hbase : schema.base w = .ok base w₁)
      (hsearch : schema.search (query base) w₁ = .ok (before ++ e :: after) w₂)
      (hscan : Scans schema w₂ before ids w₃) (hfail : Settles schema e w₃ (.error problem) w') :
    Builds schema w (.error (.schema problem)) w'
  | built {w₁ w₂ w' : W} {base : String} {es : List SearchEntry} {ids : List (Option AttributeId)}
      {set : AttributeSet} (hbase : schema.base w = .ok base w₁)
      (hsearch : schema.search (query base) w₁ = .ok es w₂)
      (hscan : Scans schema w₂ es ids w') (hversion : AttributeSet.version = 1)
      (hascending : set.ids.Pairwise (· < ·)) (hmember : ∀ id, set.contains id = true ↔ some id ∈ ids) :
    Builds schema w (.ok set) w'

theorem contains_ofList_iff (ids : List (Option AttributeId)) (id : AttributeId) :
    (AttributeSet.ofList ids.reduceOption).contains id = true ↔ some id ∈ ids := by
  rw [AttributeSet.contains_iff, AttributeSet.mem_ofList, List.reduceOption_mem_iff]

theorem builds_of_collects {w w₁ w₂ w' : W} {base : String} {es : List SearchEntry}
    {result : Except ReplicationError (List AttributeId)} (hbase : schema.base w = .ok base w₁)
    (hsearch : schema.search (query base) w₁ = .ok es w₂) (h : Collects schema w₂ es result w') :
    Builds schema w (result.map AttributeSet.ofList) w' := by
  cases h with
  | all hscan => exact .built hbase hsearch hscan rfl (AttributeSet.ascending _) (contains_ofList_iff _)
  | fails hsplit hscan hfail =>
    rw [hsplit] at hsearch
    exact .fails hbase hsearch hscan hfail

theorem yields_build {scene : Scene W} {w₁ w₂ w' : W} {base : String} {es : List SearchEntry}
    {result : Except ReplicationError (List AttributeId)} (hbase : schema.base scene.world = .ok base w₁)
    (hsearch : schema.search (query base) w₁ = .ok es w₂)
    (hrun : ∀ log, Yields (collect schema es) ⟨w₂, log⟩ result w') :
    Yields (build schema) scene (result.map AttributeSet.ofList) w' := by
  unfold build
  refine yields_bind (yields_ask hbase) fun _ => yields_bind (yields_ask hsearch) fun log => ?_
  cases result with
  | error problem => exact yields_bind_error (hrun log)
  | ok ids => exact yields_bind (hrun log) fun _ => yields_bind (yields_note _ _) fun _ => yields_pure _ _

/-- **The attribute filter.** -/
theorem build_exact (schema : SchemaAccess W) (scene : Scene W) :
    ∃ result after, Yields (build schema) scene result after ∧ Builds schema scene.world result after := by
  cases hbase : schema.base scene.world with
  | error problem w =>
    unfold build
    exact ⟨_, _, yields_bind_error (yields_ask_error hbase), .baseless hbase⟩
  | ok base w₁ =>
    cases hsearch : schema.search (query base) w₁ with
    | error problem w =>
      unfold build
      exact ⟨_, _, yields_bind (yields_ask hbase) fun _ => yields_bind_error (yields_ask_error hsearch),
        .unsearched hbase hsearch⟩
    | ok es w₂ =>
      obtain ⟨result, after, hrun, hcollects⟩ := collect_yields schema es w₂
      exact ⟨_, after, yields_build hbase hsearch hrun, builds_of_collects hbase hsearch hcollects⟩

end DirectoryPull.AttributeFilter
