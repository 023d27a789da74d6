import DirectoryPull.Flags.Basic
import DirectoryPull.Schema.Source
import DirectoryPull.Text.Numeral

/-!
# A schema in memory

A list of attribute definitions. It answers subtree searches for attribute definitions at its own base and
refuses all others.
-/

namespace DirectoryPull

structure AttributeDefinition where
  name : String
  id : UInt32
  /-- Raw flag words; none where the record has none. -/
  systemFlags : Option Int64
  searchFlags : Option Int64
deriving DecidableEq

/-- The filter that selects attribute definitions. -/
def definitionFilter : String := "objectClass=attributeSchema"

namespace AttributeDefinition

/-- The flags of a word, as far as 32 bits hold it. -/
def flagsOf (kind : FlagKind) (word : Option Int64) : Flags kind := ⟨((word.getD 0).toUInt64).toUInt32⟩

def isWanted (d : AttributeDefinition) : Bool :=
  !(flagsOf .system d.systemFlags).intersects SystemFlags.neverSent &&
    !(flagsOf .search d.searchFlags).contains SearchFlags.filtered

/-- The record of the definition, with those of its attributes that are asked for. -/
def entry (d : AttributeDefinition) (base : String) (attributes : List String) : SearchEntry :=
  let asked := fun name => attributes.any fun a => Text.sameIgnoringCase a name
  let values := [("lDAPDisplayName", some d.name),
    ("systemFlags", d.systemFlags.map fun w => Numeral.decimalInt w.toInt),
    ("searchFlags", d.searchFlags.map fun w => Numeral.decimalInt w.toInt)]
  values.foldl (fun e (name, value) =>
    match value with
    | some v => if asked name then e.add name v else e
    | none => e) (SearchEntry.ofDn s!"CN={d.name},{base}")

end AttributeDefinition

structure SchemaCatalog where
  base : String
  definitions : List AttributeDefinition
  /-- Every search fails. -/
  unavailable : Bool
deriving DecidableEq

namespace SchemaCatalog

def ofBase (base : String) : SchemaCatalog := ⟨base, [], false⟩

def find (c : SchemaCatalog) (q : SearchQuery) : Except SchemaError (List SearchEntry) :=
  if c.unavailable then .error (.search "schema partition unavailable")
  else if !Text.sameIgnoringCase q.base c.base then .error (.search s!"no such object: {q.base}")
  else if q.scope ≠ .subtree ∨ q.filter ≠ definitionFilter then
    .error (.search s!"unsupported search {q.scope.name} {q.filter}")
  else .ok (c.definitions.map fun d => d.entry c.base q.attributes)

/-- The id of the first definition whose name is the same up to case. -/
def resolve (c : SchemaCatalog) (name : String) : Except SchemaError AttributeId :=
  match c.definitions.find? fun d => Text.sameIgnoringCase d.name name with
  | some d => .ok ⟨d.id⟩
  | none => .error (.unknownAttribute name)

def view (c : SchemaCatalog) : SchemaView := ⟨.ok c.base, c.find, c.resolve⟩

end SchemaCatalog

end DirectoryPull
