import DirectoryPull.Json.Codec

/-!
# Tagged values

An object with one member, whose name says what its value is.
-/

namespace DirectoryPull.Json

/-- How the values under one tag are read. -/
structure Variant (α : Type) where
  tag : String
  decode : Nat → Draft → Except Problem α

def variantOf {α : Type} (variants : List (Variant α)) (tag : String) : Except Problem (Variant α) :=
  match variants.find? (·.tag = tag) with
  | some v => .ok v
  | none => .error (.mismatch (.variant tag (variants.map (·.tag))))

/-- A tag on its own has no value. -/
def Codec.tagged {α : Type} (variants : List (Variant α)) (encode : α → String × Json) : Codec α where
  encode a := .object [encode a]
  decode depth
    | .object ((some tag, d) :: ms) whole => do
      let depth ← inside depth
      let v ← variantOf variants tag
      let a ← v.decode depth d
      if ms.isEmpty && whole then return a else throw .malformed
    | .string (some s) => do
      let _ ← variantOf variants s
      throw (.mismatch (.type "unit variant" "newtype variant"))
    | _ => .error .malformed

end DirectoryPull.Json
