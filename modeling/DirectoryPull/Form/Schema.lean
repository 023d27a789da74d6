import DirectoryPull.Json.Record
import DirectoryPull.Schema.Catalog

/-! # Schema records as JSON -/

namespace DirectoryPull

open Json

/-- A value under its name, in a map whose names are not fixed. -/
def AttributeMap.decodeEntry (depth : Nat) : Option String × Draft → Except Problem (String × List String)
  | (some name, d) => (Codec.string.list.decode depth d).map (name, ·)
  | (none, _) => .error .malformed

/-- Of two entries with one name the later counts. -/
def AttributeMap.codec : Codec AttributeMap where
  encode m := .object (m.entries.map fun (name, values) => (name, Codec.string.list.encode values))
  decode depth
    | .object ms whole => do
      let depth ← inside depth
      let es ← ms.mapM (decodeEntry depth)
      if whole then return ofList es else throw .malformed
    | d => wrongType d "a map"

def SearchEntry.codec : Codec SearchEntry :=
  .record "SearchEntry"
    (.required "dn" .string <| .defaulted "attributes" AttributeMap.codec .empty .done)
    (fun e => (e.dn, e.attributes, ()))
    (fun (dn, attributes, _) => ⟨dn, attributes⟩)

def AttributeDefinition.codec : Codec AttributeDefinition :=
  .record "SchemaAttribute"
    (.required "lDAPDisplayName" .string <| .required "attributeId" .u32 <|
      .omitted "systemFlags" .i64 <| .omitted "searchFlags" .i64 .done)
    (fun d => (d.name, d.id, d.systemFlags, d.searchFlags, ()))
    (fun (name, id, systemFlags, searchFlags, _) => ⟨name, id, systemFlags, searchFlags⟩)

/-- A base and the definitions below it. -/
def SchemaCatalog.codec : Codec SchemaCatalog :=
  .record "SchemaDocument"
    (.required "base_dn" .string <| .required "attributes" AttributeDefinition.codec.list .done)
    (fun c => (c.base, c.definitions, ()))
    (fun (base, definitions, _) => ⟨base, definitions, false⟩)

end DirectoryPull
