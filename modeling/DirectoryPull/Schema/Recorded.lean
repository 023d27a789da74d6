import DirectoryPull.Client.Peers

/-! # A schema source that remembers what it was asked -/

namespace DirectoryPull

structure RecordedSchema where
  view : SchemaView
  /-- Searches served, oldest first, whether they failed or not. -/
  searches : List SearchQuery

namespace RecordedSchema

def ofView (view : SchemaView) : RecordedSchema := ⟨view, []⟩

/-- A call that only looks something up. -/
def lookUp {α : Type} (answer : RecordedSchema → Except SchemaError α) : Call RecordedSchema SchemaError α :=
  fun s => match answer s with
  | .ok a => .ok a s
  | .error e => .error e s

def search (q : SearchQuery) : Call RecordedSchema SchemaError (List SearchEntry) := do
  modify fun s => { s with searches := s.searches ++ [q] }
  lookUp fun s => s.view.find q

def access : SchemaAccess RecordedSchema :=
  ⟨lookUp (·.view.base), search, fun name => lookUp (·.view.resolve name)⟩

end RecordedSchema

end DirectoryPull
