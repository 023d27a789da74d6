import DirectoryPull.Json.Draft
import DirectoryPull.Json.Value
import DirectoryPull.Text.Quoted

/-!
# Reading and writing typed values

A codec writes values of a type as JSON and reads them back. Reading walks the text in order and stops at the
first problem, which is either that the text is not JSON there or that the value is not one of the type.
-/

namespace DirectoryPull.Json

/-- A value that is JSON, but not of the type. -/
inductive Mismatch
  | type (found wanted : String)
  | range (n : Int) (wanted : String)
  | length (found : Nat) (wanted : String)
  | missing (name : String)
  | repeated (name : String)
  | variant (found : String) (known : List String)
  /-- A rule of the type itself is broken. -/
  | refused (reason : String)
deriving DecidableEq

def Mismatch.message : Mismatch → String
  | type found wanted => s!"invalid type: {found}, expected {wanted}"
  | range n wanted => s!"invalid value: integer `{n}`, expected {wanted}"
  | length found wanted => s!"invalid length {found}, expected {wanted}"
  | missing name => s!"missing field `{name}`"
  | repeated name => s!"duplicate field `{name}`"
  | variant found known =>
    s!"unknown variant `{found}`, expected " ++ " or ".intercalate (known.map fun v => s!"`{v}`")
  | refused reason => reason

inductive Problem
  /-- The text stops to be JSON, or nests too deep. -/
  | malformed
  | mismatch (m : Mismatch)
deriving DecidableEq

structure Codec (α : Type) where
  encode : α → Json
  /-- Reads a value that may open so many containers inside each other. -/
  decode : Nat → Draft → Except Problem α

def maxDepth : Nat := 127

namespace Codec

variable {α β : Type}

def read (c : Codec α) (text : String) : Except Problem α := do
  let (d, entire) := Draft.ofText text
  let a ← c.decode maxDepth d
  if entire then return a else throw .malformed

def write (c : Codec α) (a : α) : String := (c.encode a).text

end Codec

/-! ## Values of the wrong kind -/

/-- How a value shows in a message; what is not JSON cannot be shown. -/
def Draft.shown : Draft → Except Problem String
  | null => .ok "null"
  | bool b => .ok s!"boolean `{b}`"
  | number (some (.integer n)) => .ok s!"integer `{n}`"
  | number (some (.double f)) => .ok s!"floating point `{Shortest.text f}`"
  | string (some s) => .ok s!"string {Text.quoted s}"
  | array _ _ => .ok "sequence"
  | object _ _ => .ok "map"
  | number none | string none | broken => .error .malformed

def wrongType {α : Type} (d : Draft) (wanted : String) : Except Problem α := do
  let found ← d.shown
  throw (.mismatch (.type found wanted))

/-- The budget inside a container, if one more may be opened. -/
def inside (depth : Nat) : Except Problem Nat :=
  match depth with
  | 0 => .error .malformed
  | depth + 1 => .ok depth

namespace Codec

variable {α β : Type}

/-! ## Single values -/

def bool : Codec Bool where
  encode := .bool
  decode _
    | .bool b => .ok b
    | d => wrongType d "a boolean"

def string : Codec String where
  encode := .string
  decode _
    | .string (some s) => .ok s
    | d => wrongType d "a string"

def integer (name : String) (low high : Int) (toInt : α → Int) (ofInt : Int → α) : Codec α where
  encode a := .int (toInt a)
  decode _
    | .number (some (.integer n)) =>
      if low ≤ n ∧ n ≤ high then .ok (ofInt n) else .error (.mismatch (.range n name))
    | d => wrongType d name

def u8 : Codec UInt8 := integer "u8" 0 (UInt8.size - 1) (fun n => n.toNat) (fun n => .ofNat n.toNat)

def u32 : Codec UInt32 := integer "u32" 0 (UInt32.size - 1) (fun n => n.toNat) (fun n => .ofNat n.toNat)

def u64 : Codec UInt64 := integer "u64" 0 (UInt64.size - 1) (fun n => n.toNat) (fun n => .ofNat n.toNat)

def i64 : Codec Int64 := integer "i64" Int64.minValue.toInt Int64.maxValue.toInt Int64.toInt Int64.ofInt

/-- A value written as a string of some form. -/
def spelled (wanted : String) (write : α → String) (read : String → Except String α) : Codec α where
  encode a := .string (write a)
  decode _
    | .string (some s) => (read s).mapError fun reason => .mismatch (.refused reason)
    | d => wrongType d wanted

/-! ## Values made of others -/

/-- The values of a type that another type's values stand for, once a rule holds. -/
def refine (c : Codec α) (toRaw : β → α) (ofRaw : α → Except String β) : Codec β where
  encode b := c.encode (toRaw b)
  decode depth d := do
    let raw ← c.decode depth d
    (ofRaw raw).mapError fun reason => .mismatch (.refused reason)

/-- The same values under another type. -/
def convert (c : Codec α) (toRaw : β → α) (ofRaw : α → β) : Codec β where
  encode b := c.encode (toRaw b)
  decode depth d := (c.decode depth d).map ofRaw

def option (c : Codec α) : Codec (Option α) where
  encode
    | none => .null
    | some a => c.encode a
  decode depth
    | .null => .ok none
    | d => some <$> c.decode depth d

def list (c : Codec α) : Codec (List α) where
  encode as := .array (as.map c.encode)
  decode depth
    | .array items whole => do
      let depth ← inside depth
      let as ← items.mapM (c.decode depth)
      if whole then return as else throw .malformed
    | d => wrongType d "a sequence"

end Codec

end DirectoryPull.Json
