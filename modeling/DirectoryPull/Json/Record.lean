import DirectoryPull.Json.Codec

/-!
# Records

A record is an object with known names, or an array of the values in the order of their declaration. In an
object unknown names are passed over, a name stands at most once, and some may be left out.
-/

namespace DirectoryPull.Json

/-- Whether a field may be left out, and what that means. -/
inductive Presence (α : Type)
  | required
  /-- May be left out of the object form. -/
  | optional (absent : α)
  /-- May be left out of both forms. -/
  | defaulted (absent : α)

structure FieldCodec (α : Type) where
  name : String
  codec : Codec α
  presence : Presence α
  /-- Values that are left out when the record is written. -/
  unwritten : α → Bool

def Presence.absent? {α : Type} : Presence α → Option α
  | required => none
  | optional a | defaulted a => some a

/-- The fields of a record; their values make up a tuple. -/
inductive Fields : Type → Type 1
  | done : Fields Unit
  | field {α β : Type} (f : FieldCodec α) (rest : Fields β) : Fields (α × β)

namespace Fields

/-! ## Declaring fields -/

/-- A field that has to be there. -/
def required {α β : Type} (name : String) (c : Codec α) (rest : Fields β) : Fields (α × β) :=
  .field ⟨name, c, .required, fun _ => false⟩ rest

/-- A field whose absence, like null, means that there is no value. -/
def optional {α β : Type} (name : String) (c : Codec α) (rest : Fields β) : Fields (Option α × β) :=
  .field ⟨name, c.option, .optional none, fun _ => false⟩ rest

/-- A field that is left out where there is no value. -/
def omitted {α β : Type} (name : String) (c : Codec α) (rest : Fields β) : Fields (Option α × β) :=
  .field ⟨name, c.option, .defaulted none, Option.isNone⟩ rest

/-- A field that has a value of its own when it is left out. -/
def defaulted {α β : Type} (name : String) (c : Codec α) (absent : α) (rest : Fields β) : Fields (α × β) :=
  .field ⟨name, c, .defaulted absent, fun _ => false⟩ rest

def count : {τ : Type} → Fields τ → Nat
  | _, done => 0
  | _, field _ rest => 1 + rest.count

/-! ## The object form -/

def Slots : {τ : Type} → Fields τ → Type
  | _, done => Unit
  | _, .field (α := α) _ rest => Option α × rest.Slots

def vacant : {τ : Type} → (fs : Fields τ) → fs.Slots
  | _, done => ()
  | _, field _ rest => (none, rest.vacant)

/-- Reads a named value into its place; none if no field has the name. -/
def put (depth : Nat) (name : String) (d : Draft) :
    {τ : Type} → (fs : Fields τ) → fs.Slots → Except Problem (Option fs.Slots)
  | _, done, _ => .ok none
  | _, .field (α := α) f rest, slots =>
    let (slot, slots) : Option α × rest.Slots := slots
    if f.name = name then
      if slot.isSome then .error (.mismatch (.repeated name))
      else do
        let a ← f.codec.decode depth d
        return some (some a, slots)
    else do
      let slots ← rest.put depth name d slots
      return slots.map (slot, ·)

/-- The values once all members are read; the first field without one is missing. -/
def settle : {τ : Type} → (fs : Fields τ) → fs.Slots → Except Problem τ
  | _, done, _ => .ok ()
  | _, .field (α := α) f rest, slots =>
    let (slot, slots) : Option α × rest.Slots := slots
    match slot.or f.presence.absent? with
    | none => .error (.mismatch (.missing f.name))
    | some a => do
      let as ← rest.settle slots
      return (a, as)

/-- Reads the members in the order in which they stand. -/
def readMembers (depth : Nat) {τ : Type} (fs : Fields τ) (slots : fs.Slots) :
    List (Option String × Draft) → Except Problem fs.Slots
  | [] => .ok slots
  | (some name, d) :: ms => do
    match ← fs.put depth name d slots with
    | some slots => readMembers depth fs slots ms
    | none => if d.isWhole then readMembers depth fs slots ms else throw .malformed
  | (none, _) :: _ => .error .malformed

/-! ## The array form -/

/-- Reads the values by position; `wanted` says what the whole record is. -/
def readItems (depth : Nat) (wanted : String) (whole : Bool) :
    Nat → {τ : Type} → Fields τ → List Draft → Except Problem τ
  | _, _, done, items => if items.isEmpty && whole then .ok () else .error .malformed
  | index, _, field f rest, d :: ds => do
    let a ← f.codec.decode depth d
    let as ← rest.readItems depth wanted whole (index + 1) ds
    return (a, as)
  | index, _, field f rest, [] =>
    if !whole then .error .malformed
    else match f.presence with
      | .defaulted a => do
        let as ← rest.readItems depth wanted whole (index + 1) []
        return (a, as)
      | _ => .error (.mismatch (.length index wanted))

/-! ## Writing -/

def members : {τ : Type} → Fields τ → τ → List (String × Json)
  | _, done, _ => []
  | _, field f rest, (a, as) =>
    if f.unwritten a then rest.members as else (f.name, f.codec.encode a) :: rest.members as

end Fields

def Codec.record {α τ : Type} (title : String) (fs : Fields τ) (toTuple : α → τ) (ofTuple : τ → α) :
    Codec α where
  encode a := .object (fs.members (toTuple a))
  decode depth
    | .object ms whole => do
      let depth ← inside depth
      let slots ← fs.readMembers depth fs.vacant ms
      if whole then ofTuple <$> fs.settle slots else throw .malformed
    | .array items whole => do
      let depth ← inside depth
      let elements := if fs.count = 1 then "element" else "elements"
      ofTuple <$> fs.readItems depth s!"struct {title} with {fs.count} {elements}" whole 0 items
    | d => wrongType d s!"struct {title}"

end DirectoryPull.Json
