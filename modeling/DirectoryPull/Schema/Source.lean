import DirectoryPull.Client.Error
import DirectoryPull.Schema.Entry
import DirectoryPull.Value.AttributeId

/-!
# Sources of the schema

What the client needs to know about attributes: where the schema lies, its records, and the ids of names.
-/

namespace DirectoryPull

inductive SearchScope
  | base
  | oneLevel
  | subtree
deriving DecidableEq

def SearchScope.name : SearchScope → String
  | base => "Base"
  | oneLevel => "OneLevel"
  | subtree => "Subtree"

structure SearchQuery where
  base : String
  scope : SearchScope
  filter : String
  /-- The attributes to return. -/
  attributes : List String
deriving DecidableEq

/-- A schema that gives the same answer to the same question. -/
structure SchemaView where
  base : Except SchemaError String
  find : SearchQuery → Except SchemaError (List SearchEntry)
  resolve : String → Except SchemaError AttributeId

end DirectoryPull
