import DirectoryPull.Proofs.Client.AttributeFilter
import DirectoryPull.Proofs.Pull.Turns

/-!
# What a pull writes to its log

The log can be told from the exchanges of a pull: a line on each record that is left out, one on the set, one on the
start, one on each chunk that is stored, and one on the end.
-/

namespace DirectoryPull

open DirectoryPull.Action

namespace AttributeFilter

variable {W : Type}

/-! ## Lines on records -/

/-- What is said of a record whose attribute is left out. -/
inductive Excluded (e : SearchEntry) : Line → Prop
  | neverSent {name : String} {system : UInt32} (hname : e.first "lDAPDisplayName" = some name)
      (hsystem : HasWord e "systemFlags" system) (hsent : NeverSent system) :
    Excluded e ⟨.trace, "not sent by servers",
      [("attribute", .text name), ("system_flags", .text (⟨system⟩ : SystemFlags).titled)]⟩
  | withheld {name : String} {system search : UInt32} (hname : e.first "lDAPDisplayName" = some name)
      (hsystem : HasWord e "systemFlags" system) (hsent : ¬ NeverSent system)
      (hsearch : HasWord e "searchFlags" search) (hshown : Withheld search) :
    Excluded e ⟨.trace, "filtered from read-only replicas", [("attribute", .text name)]⟩

/-- Records, one after the other, with what is asked and what is said of them. The first that fails ends it. -/
inductive Scanned :
    List SearchEntry → List Exchange → List Line → Except ReplicationError (List AttributeId) → Prop
  | done : Scanned [] [] [] (.ok [])
  | excluded {e : SearchEntry} {es : List SearchEntry} {xs : List Exchange} {line : Line} {lines : List Line}
      {result : Except ReplicationError (List AttributeId)} (hline : Excluded e line)
      (hrest : Scanned es xs lines result) :
    Scanned (e :: es) xs (line :: lines) result
  | unusable {e : SearchEntry} {es : List SearchEntry} {problem : SchemaError} (hrule : Ruled e (.error problem)) :
    Scanned (e :: es) [] [] (.error (.schema problem))
  | unresolved {e : SearchEntry} {es : List SearchEntry} {name : String} (hrule : Ruled e (.ok (some name)))
      (problem : SchemaError) :
    Scanned (e :: es) [.resolve name (.error problem)] [] (.error (.schema problem))
  | resolved {e : SearchEntry} {es : List SearchEntry} {xs : List Exchange} {lines : List Line} {name : String}
      {id : AttributeId} {result : Except ReplicationError (List AttributeId)} (hrule : Ruled e (.ok (some name)))
      (hrest : Scanned es xs lines result) :
    Scanned (e :: es) (.resolve name (.ok id) :: xs) lines (result.map (id :: ·))

theorem traces_collect (schema : SchemaAccess W) (entries : List SearchEntry) :
    Traces (collect schema entries) (collect schema.watched entries) (Scanned entries) := by
  induction entries with
  | nil => exact traces_pure .done
  | cons e es ih =>
    have hjudged := judged_verdict e
    unfold collect
    generalize verdict e = v at hjudged
    cases hjudged with
    | unusable hrule => exact traces_throw (.unusable hrule)
    | neverSent hname hsystem hsent =>
      apply traces_note_bind
      exact ih.mono fun xs lines result => .excluded (.neverSent hname hsystem hsent)
    | withheld hname hsystem hsent hsearch hshown =>
      apply traces_note_bind
      exact ih.mono fun xs lines result => .excluded (.withheld hname hsystem hsent hsearch hshown)
    | wanted hrule =>
      apply traces_ask_bind
      case herror => exact .unresolved hrule
      intro id
      apply ih.bind
      · intro ids xs lines hrest
        apply traces_pure
        rw [List.append_nil, List.append_nil]
        exact .resolved hrule hrest
      · exact fun e xs lines hrest => .resolved hrule hrest

/-! ## The line on the set -/

/-- What is asked and said while the set is computed. -/
inductive Built : List Exchange → List Line → Except ReplicationError AttributeSet → Prop
  | baseless (problem : SchemaError) : Built [.base (.error problem)] [] (.error (.schema problem))
  | unsearched (base : String) (problem : SchemaError) :
    Built [.base (.ok base), .search (query base) (.error problem)] [] (.error (.schema problem))
  | fails {base : String} {entries : List SearchEntry} {xs : List Exchange} {lines : List Line} {e : ReplicationError}
      (hscan : Scanned entries xs lines (.error e)) :
    Built (.base (.ok base) :: .search (query base) (.ok entries) :: xs) lines (.error e)
  | built {base : String} {entries : List SearchEntry} {xs : List Exchange} {lines : List Line} {ids : List AttributeId}
      {set : AttributeSet} (hscan : Scanned entries xs lines (.ok ids)) (hset : set = .ofList ids) :
    Built (.base (.ok base) :: .search (query base) (.ok entries) :: xs)
      (lines ++ [⟨.debug, "built partial attribute set",
        [("schema_entries", .count entries.length), ("requested", .count set.size)]⟩])
      (.ok set)

theorem traces_build (schema : SchemaAccess W) : Traces (build schema) (build schema.watched) Built := by
  unfold build
  apply traces_ask_bind
  case herror => exact .baseless
  intro base
  apply traces_ask_bind
  case herror => exact .unsearched base
  intro entries
  apply (traces_collect schema entries).bind
  · intro ids xs lines hscan
    apply traces_note_bind
    apply traces_pure
    rw [List.append_nil]
    exact .built hscan rfl
  · exact fun e xs lines hscan => .fails hscan

end AttributeFilter

namespace Session

open AttributeFilter

/-! ## The lines of a pull -/

/-- What is asked and said until the request is made. -/
inductive Prepared (options : PullOptions) :
    List Exchange → List Line → Except ReplicationError (Option AttributeSet) → Prop
  | unfiltered (h : ¬ (options.readOnly = true ∧ options.schema = false)) : Prepared options [] [] (.ok none)
  | filtered {asked : List Exchange} {notes : List Line} {built : Except ReplicationError AttributeSet}
      (h : options.readOnly = true ∧ options.schema = false) (hbuilt : Built asked notes built) :
    Prepared options asked notes (built.map some)

theorem traces_wanted {W : Type} (schema : SchemaAccess W) (options : PullOptions) :
    Traces (wanted schema options) (wanted schema.watched options) (Prepared options) := by
  unfold wanted
  split
  · next hfiltered =>
    have hoptions : options.readOnly = true ∧ options.schema = false := by
      simpa [PullOptions.isFiltered] using hfiltered
    apply (traces_build schema).bind
    · intro set asked notes hbuilt
      apply traces_pure
      rw [List.append_nil, List.append_nil]
      exact .filtered hoptions hbuilt
    · exact fun e asked notes hbuilt => .filtered hoptions hbuilt
  · next hfiltered =>
    apply traces_pure
    apply Prepared.unfiltered
    simpa [PullOptions.isFiltered] using hfiltered

def startLine (dn : String) (r : PullRequest) : Line :=
  ⟨.info, "starting replication", [("naming_context", .text dn), ("req_level", .count r.level.toNat),
    ("replica_flags", .text (Numeral.word r.terms.flags.bits)), ("extended_op", .text r.terms.operation.name)]⟩

/-- Only the end of a pull that has come through is told of. -/
def finishLines (dn : String) : Except ReplicationError (Option PullStats) → List Line
  | .ok (some stats) =>
    [⟨.info, "replication complete", [("naming_context", .text dn), ("chunks", .count stats.chunks),
      ("objects", .count stats.objects)]⟩]
  | .ok none | .error _ => []

/-- The exchanges of a pull, its log and its result. -/
inductive Logged (s : Session) (calls : Nat) (dn : String) (source destination : Guid) (options : PullOptions) :
    List Exchange → List Line → Except ReplicationError (Option PullStats) → Prop
  | unprepared {asked : List Exchange} {notes : List Line} {e : ReplicationError}
      (hprepared : Prepared options asked notes (.error e)) :
    Logged s calls dn source destination options asked notes (.error e)
  | prepared {asked told : List Exchange} {notes : List Line} {set : Option AttributeSet} {r : PullRequest}
      {result : Except ReplicationError (Option PullStats)} (hprepared : Prepared options asked notes (.ok set))
      (hr : r = firstRequest s dn source destination options set)
      (hturns : Turns s options calls r (.start r.level) told result) :
    Logged s calls dn source destination options (asked ++ told)
      (notes ++ startLine dn r :: (told.filterMap (appliedLine? dn) ++ finishLines dn result)) result

/-- **The log of a pull.** -/
theorem replicate_logged {W : Type} (peers : Peers W) (s : Session) (calls : Nat) (dn : String)
    (source destination : Guid) (options : PullOptions) :
    Traces (replicate peers s calls dn source destination options)
      (replicate peers.watched s calls dn source destination options)
      (Logged s calls dn source destination options) := by
  unfold replicate
  apply (traces_wanted peers.schema options).bind
  case herror => exact fun e asked notes hprepared => .unprepared hprepared
  intro set asked notes hprepared
  generalize hr : s.request (s.terms dn source destination options) set = r
  have hterms : r.terms = s.terms dn source destination options := by
    rw [← hr]
    exact firstRequest_terms s dn source destination options set
  have hcontext : r.terms.context.dn = dn := by
    rw [hterms]
    rfl
  have hstart : (Event.pullStarted dn r.level r.terms.flags options.operation).line = startLine dn r := by
    rw [startLine, hterms]
    rfl
  apply traces_note_bind
  rw [hstart]
  apply (traces_pullAll s options peers calls r (.start r.level)).bind
  · rintro stats? told lines ⟨hturns, rfl⟩
    have hlogged := Logged.prepared hprepared hr.symm hturns
    rw [hcontext]
    cases stats? with
    | none =>
      apply traces_pure
      rwa [List.append_nil]
    | some stats =>
      apply traces_note_bind
      apply traces_pure
      rwa [List.append_nil]
  · rintro e told lines ⟨hturns, rfl⟩
    have hlogged := Logged.prepared hprepared hr.symm hturns
    rwa [hcontext, ← List.append_nil (told.filterMap _)]

end Session

end DirectoryPull
