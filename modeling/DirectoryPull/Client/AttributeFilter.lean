import DirectoryPull.Client.Peers
import DirectoryPull.Schema.Catalog
import DirectoryPull.Schema.FlagWord

/-!
# The attributes of a read-only replica

All attributes but those that servers never send and those that are withheld from read-only replicas.
-/

namespace DirectoryPull.AttributeFilter

/-- The attributes that are read from each definition. -/
def readAttributes : List String := ["lDAPDisplayName", "systemFlags", "searchFlags"]

def query (base : String) : SearchQuery := ⟨base, .subtree, definitionFilter, readAttributes⟩

/-- What becomes of an attribute. -/
inductive Verdict
  | wanted (name : String)
  | notSent (name : String) (flags : SystemFlags)
  | filtered (name : String)
deriving DecidableEq

/-- The verdict on a record. The search flags of an attribute that is never sent are not looked at. -/
def verdict (e : SearchEntry) : Except SchemaError Verdict := do
  let some name := e.first "lDAPDisplayName" | throw (.malformed e.dn "missing lDAPDisplayName")
  let system : SystemFlags := ⟨← FlagWord.ofEntry e "systemFlags"⟩
  if system.intersects SystemFlags.neverSent then return .notSent name system
  let search : SearchFlags := ⟨← FlagWord.ofEntry e "searchFlags"⟩
  if search.contains SearchFlags.filtered then return .filtered name
  return .wanted name

variable {W : Type}

/-- The ids of the wanted attributes, in the order of the records. -/
def collect (schema : SchemaAccess W) : List SearchEntry → Action W ReplicationError (List AttributeId)
  | [] => return []
  | e :: es => do
    match verdict e with
    | .error problem => throw (.schema problem)
    | .ok (.notSent name flags) =>
      Action.note (.notSent name flags)
      collect schema es
    | .ok (.filtered name) =>
      Action.note (.filtered name)
      collect schema es
    | .ok (.wanted name) =>
      let id ← Action.ask (schema.resolve name) .schema
      let ids ← collect schema es
      return id :: ids

def build (schema : SchemaAccess W) : Action W ReplicationError AttributeSet := do
  let base ← Action.ask schema.base .schema
  let entries ← Action.ask (schema.search (query base)) .schema
  let set := AttributeSet.ofList (← collect schema entries)
  Action.note (.setBuilt entries.length set.size)
  return set

end DirectoryPull.AttributeFilter
