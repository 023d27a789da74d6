import DirectoryPull.Json.Token

/-!
# What a text says as far as it is well formed

The tokens of a text are put together as a tree that also shows where the text stops to be JSON. A reader that
walks the tree in order meets a value of the wrong kind before a later break, as it stands in the text.
-/

namespace DirectoryPull.Json

inductive Draft
  | null
  | bool (b : Bool)
  | number (n : Option Number)
  | string (s : Option String)
  /-- The items, and whether the closing bracket was reached. -/
  | array (items : List Draft) (whole : Bool)
  /-- Names and values, and whether the closing brace was reached. -/
  | object (members : List (Option String × Draft)) (whole : Bool)
  /-- No value stands where one should. -/
  | broken

namespace Draft

/-! ## Containers under way -/

/-- A container that waits for a value inside it, with what it holds so far, newest first. -/
inductive Frame
  | items (done : List Draft)
  | member (done : List (Option String × Draft)) (name : Option String)

/-- What has been read and what may stand next; the frames lie around it, the innermost first. -/
inductive State
  | done (d : Draft)
  | value (frames : List Frame)
  /-- The first item of an array, or its end. -/
  | firstItem (frames : List Frame)
  | afterItem (done : List Draft) (frames : List Frame)
  /-- The first name of an object, or its end. -/
  | firstName (frames : List Frame)
  | name (done : List (Option String × Draft)) (frames : List Frame)
  | colon (done : List (Option String × Draft)) (name : Option String) (frames : List Frame)
  | afterMember (done : List (Option String × Draft)) (frames : List Frame)

/-- Hands a complete value to the container around it. -/
def deliver (d : Draft) : List Frame → State
  | [] => .done d
  | .items ds :: fs => .afterItem (d :: ds) fs
  | .member ms name :: fs => .afterMember ((name, d) :: ms) fs

def startValue (fs : List Frame) : Token → Option State
  | .arrayStart => some (.firstItem fs)
  | .objectStart => some (.firstName fs)
  | .null => some (deliver .null fs)
  | .bool b => some (deliver (.bool b) fs)
  | .number n => some (deliver (.number n) fs)
  | .string s => some (deliver (.string s) fs)
  | _ => none

/-- What the text says after one more token; none if the token cannot stand here. -/
def step : State → Token → Option State
  | .value fs, t => startValue fs t
  | .firstItem fs, .arrayEnd => some (deliver (.array [] true) fs)
  | .firstItem fs, t => startValue (.items [] :: fs) t
  | .afterItem ds fs, .comma => some (.value (.items ds :: fs))
  | .afterItem ds fs, .arrayEnd => some (deliver (.array ds.reverse true) fs)
  | .firstName fs, .objectEnd => some (deliver (.object [] true) fs)
  | .firstName fs, .string s => some (.colon [] s fs)
  | .name ms fs, .string s => some (.colon ms s fs)
  | .colon ms s fs, .colon => some (.value (.member ms s :: fs))
  | .afterMember ms fs, .comma => some (.name ms fs)
  | .afterMember ms fs, .objectEnd => some (deliver (.object ms.reverse true) fs)
  | _, _ => none

/-! ## Where the text stops -/

/-- Ends the open containers around an unfinished value. -/
def enclose (d : Draft) : List Frame → Draft
  | [] => d
  | .items ds :: fs => enclose (.array (d :: ds).reverse false) fs
  | .member ms name :: fs => enclose (.object ((name, d) :: ms).reverse false) fs

/-- What a text says that stops here. -/
def abandon : State → Draft
  | .done d => d
  | .value fs => enclose .broken fs
  | .firstItem fs => enclose (.array [] false) fs
  | .afterItem ds fs => enclose (.array ds.reverse false) fs
  | .firstName fs => enclose (.object [] false) fs
  | .name ms fs | .afterMember ms fs => enclose (.object ms.reverse false) fs
  | .colon ms name fs => enclose .broken (.member ms name :: fs)

/-- The tree, and whether the text is one JSON value and nothing else. -/
def run : State → List Token → Draft × Bool
  | .done d, [] => (d, true)
  | s, [] => (abandon s, false)
  | s, t :: ts =>
    match step s t with
    | some s => run s ts
    | none => (abandon s, false)

def ofText (text : String) : Draft × Bool := run (.value []) (tokens text.toList)

/-! ## Values nobody asked for -/

mutual

/-- A value that is passed over only has to be well formed. -/
def isWhole : Draft → Bool
  | array items whole => whole && itemsWhole items
  | object members whole => whole && membersWhole members
  | broken => false
  | _ => true

def itemsWhole : List Draft → Bool
  | [] => true
  | d :: ds => isWhole d && itemsWhole ds

def membersWhole : List (Option String × Draft) → Bool
  | [] => true
  | (_, d) :: ms => isWhole d && membersWhole ms

end

end Draft

end DirectoryPull.Json
