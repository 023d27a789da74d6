import DirectoryPull.Proofs.Client.AttributeFilter
import DirectoryPull.Schema.Recorded
import Mathlib.Data.List.Nodup

/-!
# Records that say the same

A schema may give its records in any order and more than once, and write the keys of a record in any case, as long as
they can be told apart without it. The attribute set comes out the same.
-/

namespace DirectoryPull

open DirectoryPull.Action

/-! ## One record in another case -/

namespace SearchEntry

/-- The attributes without the case of their keys. -/
def caseless (e : SearchEntry) : List (List Char × List String) :=
  e.attributes.entries.map fun (key, values) => (key.toList.map Char.toLower, values)

/-- The same record with its keys in another case. Even without the case no two of them are the same. -/
structure Recased (e e' : SearchEntry) : Prop where
  dn : e'.dn = e.dn
  distinct : (e.caseless.map Prod.fst).Nodup
  caseless : e'.caseless.Perm e.caseless

variable {e e' : SearchEntry}

theorem first_caseless (e : SearchEntry) (name : String) :
    e.first name =
      (e.caseless.find? fun entry => entry.1 == name.toList.map Char.toLower).bind fun entry => entry.2.head? := by
  unfold first caseless
  rw [List.find?_map, Option.bind_map]
  rfl

theorem find_iff_mem {κ ν : Type} [BEq κ] [LawfulBEq κ] {entries : List (κ × ν)} (h : (entries.map Prod.fst).Nodup)
    {key : κ} {entry : κ × ν} : entries.find? (·.1 == key) = some entry ↔ entry ∈ entries ∧ entry.1 = key := by
  have hkeys : ∀ {found}, entries.find? (·.1 == key) = some found → found.1 = key := by
    intro found hfind
    have hbeq := List.find?_some hfind
    exact eq_of_beq hbeq
  constructor
  · intro hfind
    exact ⟨List.mem_of_find?_eq_some hfind, hkeys hfind⟩
  · rintro ⟨hmem, hkey⟩
    have hsome : (entries.find? (·.1 == key)).isSome = true := by
      rw [List.find?_isSome]
      exact ⟨entry, hmem, beq_iff_eq.mpr hkey⟩
    obtain ⟨found, hfind⟩ := Option.isSome_iff_exists.mp hsome
    rw [hfind, List.inj_on_of_nodup_map h (List.mem_of_find?_eq_some hfind) hmem ((hkeys hfind).trans hkey.symm)]

theorem Recased.first (h : Recased e e') (name : String) : e'.first name = e.first name := by
  have hdistinct : (e'.caseless.map Prod.fst).Nodup := (h.caseless.map Prod.fst).nodup_iff.mpr h.distinct
  rw [first_caseless, first_caseless]
  congr 1
  apply Option.ext
  intro entry
  rw [find_iff_mem hdistinct, find_iff_mem h.distinct, h.caseless.mem_iff]

theorem Recased.verdict (h : Recased e e') : AttributeFilter.verdict e' = AttributeFilter.verdict e := by
  simp only [AttributeFilter.verdict, FlagWord.ofEntry, h.first, h.dn]

end SearchEntry

/-! ## All records told again -/

/-- The same records, in any order, any number of times and in any case. -/
structure SameRecords (entries entries' : List SearchEntry) : Prop where
  kept : ∀ e ∈ entries, ∃ e' ∈ entries', e' = e ∨ e.Recased e'
  told : ∀ e' ∈ entries', ∃ e ∈ entries, e' = e ∨ e.Recased e'

namespace AttributeFilter

/-- What a record comes to in the end. -/
def settled (resolve : String → Except SchemaError AttributeId) (e : SearchEntry) :
    Except SchemaError (Option AttributeId) :=
  (verdict e).map Verdict.wanted? >>= fun
    | none => .ok none
    | some name => (resolve name).map some

variable (resolve : String → Except SchemaError AttributeId)

theorem settled_same {e e' : SearchEntry} (h : e' = e ∨ e.Recased e') : settled resolve e' = settled resolve e := by
  unfold settled
  rcases h with rfl | h
  · rfl
  · rw [h.verdict]

theorem mem_settled {entries entries' : List SearchEntry} (h : SameRecords entries entries')
    (x : Except SchemaError (Option AttributeId)) :
    x ∈ entries'.map (settled resolve) ↔ x ∈ entries.map (settled resolve) := by
  simp only [List.mem_map]
  constructor
  · rintro ⟨e', he', rfl⟩
    obtain ⟨e, he, hsame⟩ := h.told e' he'
    exact ⟨e, he, (settled_same resolve hsame).symm⟩
  · rintro ⟨e, he, rfl⟩
    obtain ⟨e', he', hsame⟩ := h.kept e he
    exact ⟨e', he', settled_same resolve hsame⟩

end AttributeFilter

/-! ## Sources with a view -/

/-- As long as it is sound, the source answers by a view of the schema, and stays sound. -/
structure SchemaAccess.Follows {W : Type} (schema : SchemaAccess W) (view : SchemaView) (sound : W → Prop) : Prop where
  base : ∀ w, sound w → ∃ w', schema.base.Answers w view.base w' ∧ sound w'
  search : ∀ query w, sound w → ∃ w', (schema.search query).Answers w (view.find query) w' ∧ sound w'
  resolve : ∀ name w, sound w → ∃ w', (schema.resolve name).Answers w (view.resolve name) w' ∧ sound w'

theorem SchemaAccess.Follows.resolve_unique {W : Type} {schema : SchemaAccess W} {view : SchemaView} {sound : W → Prop}
    (h : schema.Follows view sound) {w w' : W} (hw : sound w) {name : String} {answer : Except SchemaError AttributeId}
    (hanswer : (schema.resolve name).Answers w answer w') : view.resolve name = answer ∧ sound w' := by
  obtain ⟨after, hresolve, hsound⟩ := h.resolve name w hw
  obtain ⟨heq, rfl⟩ := hresolve.unique hanswer
  exact ⟨heq, hsound⟩

theorem RecordedSchema.follows (view : SchemaView) : access.Follows view fun w => w.view = view := by
  have hlookUp : ∀ {α : Type} (answer : RecordedSchema → Except SchemaError α) (w : RecordedSchema),
      (lookUp answer).Answers w (answer w) w := by
    intro α answer w
    unfold Call.Answers lookUp
    cases answer w <;> rfl
  constructor
  case base =>
    rintro w rfl
    exact ⟨w, hlookUp _ w, rfl⟩
  case search =>
    rintro query ⟨_, searches⟩ rfl
    refine ⟨⟨_, searches ++ [query]⟩, ?_, rfl⟩
    exact hlookUp (fun w => w.view.find query) _
  case resolve =>
    rintro name w rfl
    exact ⟨w, hlookUp _ w, rfl⟩

namespace AttributeFilter

variable {W : Type} {schema : SchemaAccess W} {view : SchemaView} {sound : W → Prop} {w w' : W}
  {entries : List SearchEntry}

section

variable (h : schema.Follows view sound) (hw : sound w)
include h hw

theorem Settles.settled {e : SearchEntry} {answer : Except SchemaError (Option AttributeId)}
    (hsettles : Settles schema e w answer w') : AttributeFilter.settled view.resolve e = answer ∧ sound w' := by
  unfold AttributeFilter.settled
  cases hsettles with
  | unusable hrule | leftOut hrule =>
    rw [hrule.verdict]
    exact ⟨rfl, hw⟩
  | unresolved hrule hid =>
    have hanswer : Call.Answers (schema.resolve _) w (.error _) w' := hid
    obtain ⟨heq, hsound⟩ := h.resolve_unique hw hanswer
    rw [hrule.verdict]
    exact ⟨congrArg (Except.map some) heq, hsound⟩
  | resolved hrule hid =>
    have hanswer : Call.Answers (schema.resolve _) w (.ok _) w' := hid
    obtain ⟨heq, hsound⟩ := h.resolve_unique hw hanswer
    rw [hrule.verdict]
    exact ⟨congrArg (Except.map some) heq, hsound⟩

theorem Scans.settled {ids : List (Option AttributeId)} (hscan : Scans schema w entries ids w') :
    entries.map (settled view.resolve) = ids.map .ok ∧ sound w' := by
  induction hscan with
  | done => exact ⟨rfl, hw⟩
  | next hfirst _ ih =>
    obtain ⟨hsettled, hw⟩ := hfirst.settled h hw
    obtain ⟨hrest, hw⟩ := ih hw
    rw [List.map_cons, List.map_cons, hsettled, hrest]
    exact ⟨rfl, hw⟩

theorem Collects.settled {result : Except ReplicationError (List AttributeId)}
    (hcollects : Collects schema w entries result w') :
    (∃ ids : List (Option AttributeId), result = .ok ids.reduceOption ∧
      entries.map (settled view.resolve) = ids.map .ok) ∨
    ∃ problem, result = .error (.schema problem) ∧ .error problem ∈ entries.map (settled view.resolve) := by
  cases hcollects with
  | all hscan => exact Or.inl ⟨_, rfl, (hscan.settled h hw).1⟩
  | @fails before after e ids between _ problem hsplit hscan hfail =>
    obtain ⟨-, hw⟩ := hscan.settled h hw
    obtain ⟨hsettled, -⟩ := hfail.settled h hw
    refine Or.inr ⟨problem, rfl, ?_⟩
    rw [hsplit, ← hsettled]
    exact List.mem_map_of_mem (List.mem_append_right before List.mem_cons_self)

/-- A build whose search succeeds is as good as its records. -/
theorem build_settled {base : String} (hbase : view.base = .ok base) (hfind : view.find (query base) = .ok entries) :
    ∃ result after, (∀ log, Yields (build schema) ⟨w, log⟩ result after) ∧
      ((∃ ids : List (Option AttributeId), result = .ok (.ofList ids.reduceOption) ∧
        entries.map (settled view.resolve) = ids.map .ok) ∨
      ∃ problem, result = .error (.schema problem) ∧ .error problem ∈ entries.map (settled view.resolve)) := by
  obtain ⟨w₁, hcall, hw₁⟩ := h.base w hw
  rw [hbase] at hcall
  obtain ⟨w₂, hcall', hw₂⟩ := h.search (query base) w₁ hw₁
  rw [hfind] at hcall'
  obtain ⟨collected, after, hrun, hcollects⟩ := collect_yields schema entries w₂
  refine ⟨collected.map .ofList, after, fun log => yields_build hcall hcall' hrun, ?_⟩
  rcases hcollects.settled h hw₂ with ⟨ids, rfl, hids⟩ | ⟨problem, rfl, hproblem⟩
  · exact Or.inl ⟨ids, rfl, hids⟩
  · exact Or.inr ⟨problem, rfl, hproblem⟩

end

end AttributeFilter

/-! ## The same set -/

/-- Two views that differ in nothing but how the records under a base are told. -/
structure SchemaView.Retold (view view' : SchemaView) (dn : String) (entries entries' : List SearchEntry) : Prop where
  base : view.base = .ok dn
  find : view.find (AttributeFilter.query dn) = .ok entries
  base_again : view'.base = .ok dn
  find_again : view'.find (AttributeFilter.query dn) = .ok entries'
  resolve : view'.resolve = view.resolve
  records : SameRecords entries entries'

namespace AttributeFilter

/-- **Only the set of records counts.** -/
theorem build_retold {W V : Type} {schema : SchemaAccess W} {schema' : SchemaAccess V} {view view' : SchemaView}
    {sound : W → Prop} {sound' : V → Prop} {w : W} {v : V} {dn : String} {entries entries' : List SearchEntry}
    (h : schema.Follows view sound) (h' : schema'.Follows view' sound') (hw : sound w) (hv : sound' v)
    (hretold : view.Retold view' dn entries entries') :
    ∃ result result' after after', (∀ log, Yields (build schema) ⟨w, log⟩ result after) ∧
      (∀ log, Yields (build schema') ⟨v, log⟩ result' after') ∧
      ((∃ set, result = .ok set ∧ result' = .ok set) ∨ ∃ e e', result = .error e ∧ result' = .error e') := by
  obtain ⟨result, after, hrun, hresult⟩ := build_settled h hw hretold.base hretold.find
  obtain ⟨result', after', hrun', hresult'⟩ := build_settled h' hv hretold.base_again hretold.find_again
  have hmem := mem_settled view.resolve hretold.records
  rw [hretold.resolve] at hresult'
  refine ⟨result, result', after, after', hrun, hrun', ?_⟩
  -- A record that fails is told both times, and so is one that comes to an id.
  rcases hresult with ⟨ids, rfl, hids⟩ | ⟨problem, rfl, hproblem⟩
  · rcases hresult' with ⟨ids', rfl, hids'⟩ | ⟨problem, rfl, hproblem⟩
    · have hset : AttributeSet.ofList ids'.reduceOption = .ofList ids.reduceOption := by
        rw [AttributeSet.ofList_eq_iff]
        intro id
        have hid := hmem (.ok (some id))
        rw [hids, hids'] at hid
        simpa [List.reduceOption_mem_iff] using hid
      exact Or.inl ⟨_, rfl, by rw [hset]⟩
    · rw [hmem, hids] at hproblem
      simp at hproblem
  · rcases hresult' with ⟨ids', rfl, hids'⟩ | ⟨problem', rfl, -⟩
    · rw [← hmem, hids'] at hproblem
      simp at hproblem
    · exact Or.inr ⟨_, _, rfl, rfl⟩

/-- A schema with one attribute that is wanted and one that is not. -/
def smallView (entries : List SearchEntry) : SchemaView :=
  ⟨.ok "CN=Schema", fun _ => .ok entries, fun name => if name = "cn" then .ok ⟨3⟩ else .error (.unknownAttribute name)⟩

def plainEntry : SearchEntry := ((SearchEntry.ofDn "CN=cn").add "lDAPDisplayName" "cn").add "systemFlags" "16"

def shoutedEntry : SearchEntry := ((SearchEntry.ofDn "CN=cn").add "SYSTEMFLAGS" "16").add "LDAPDISPLAYNAME" "cn"

def secretEntry : SearchEntry :=
  ((SearchEntry.ofDn "CN=secret").add "lDAPDisplayName" "secret").add "searchFlags" "512"

def tidyRecords : List SearchEntry := [plainEntry, secretEntry]

def untidyRecords : List SearchEntry := [secretEntry, shoutedEntry, secretEntry]

theorem retold_tidyRecords :
    (smallView tidyRecords).Retold (smallView untidyRecords) "CN=Schema" tidyRecords untidyRecords := by
  have hrecased : plainEntry.Recased shoutedEntry := ⟨rfl, by decide, by decide⟩
  refine ⟨rfl, rfl, rfl, rfl, rfl, ?_, ?_⟩
  · simpa [tidyRecords, untidyRecords] using Or.inr (Or.inl (Or.inr hrecased))
  · simpa [tidyRecords, untidyRecords] using Or.inl (Or.inr hrecased)

/-- Both sets have the one id. -/
theorem build_retold_tidyRecords :
    (smallView tidyRecords).Retold (smallView untidyRecords) "CN=Schema" tidyRecords untidyRecords ∧
      ∃ after after',
        Yields (build RecordedSchema.access) ⟨⟨smallView tidyRecords, []⟩, []⟩ (.ok (.ofList [⟨3⟩])) after ∧
        Yields (build RecordedSchema.access) ⟨⟨smallView untidyRecords, []⟩, []⟩ (.ok (.ofList [⟨3⟩])) after' := by
  obtain ⟨result, result', after, after', hrun, hrun', hsame⟩ :=
    build_retold (w := ⟨smallView tidyRecords, []⟩) (v := ⟨smallView untidyRecords, []⟩) (RecordedSchema.follows _)
      (RecordedSchema.follows _) rfl rfl retold_tidyRecords
  have hbuilt : Yields (build RecordedSchema.access) ⟨⟨smallView tidyRecords, []⟩, []⟩ (.ok (.ofList [⟨3⟩]))
      ⟨smallView tidyRecords, [query "CN=Schema"]⟩ := ⟨_, rfl⟩
  obtain rfl := (hrun []).unique hbuilt
  rcases hsame with ⟨set, hset, rfl⟩ | ⟨e, e', herror, -⟩
  · obtain rfl := Except.ok.inj hset
    exact ⟨retold_tidyRecords, after, after', hrun [], hrun' []⟩
  · contradiction

end AttributeFilter

end DirectoryPull
