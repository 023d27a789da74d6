import DirectoryPull.Flags.Basic
import DirectoryPull.Text.Blank

/-!
# Flag words as text

The names of the bits that are set, joined by bars, and what is left in hexadecimal.
-/

namespace DirectoryPull

namespace Flags

variable {kind : FlagKind}

/-! ## Writing -/

/-- The names that each add a bit not written before, and the bits that remain after them. -/
def nameBits (word : UInt32) : List (String × UInt32) → UInt32 → List String × UInt32
  | [], left => ([], left)
  | (name, b) :: names, left =>
    if word &&& b == b && left &&& b != 0 then
      let (rest, left) := nameBits word names (left &&& ~~~b)
      (name :: rest, left)
    else nameBits word names left

/-- The names in the text of a word. -/
def names (f : Flags kind) : List String := (nameBits f.bits kind.names f.bits).1

/-- The bits of a word that no name stands for. -/
def unnamed (f : Flags kind) : UInt32 := (nameBits f.bits kind.names f.bits).2

def pieces (f : Flags kind) : List String :=
  f.names ++ if f.unnamed == 0 then [] else ["0x" ++ Numeral.hex f.unnamed.toNat]

def text (f : Flags kind) : String := " | ".intercalate f.pieces

/-- The form in messages, where the empty word shows as a number. -/
def titled (f : Flags kind) : String :=
  kind.title ++ "(" ++ (if f.bits == 0 then "0x0" else f.text) ++ ")"

end Flags

/-! ## Reading -/

/-- Why a text is not a flag word. -/
inductive FlagsProblem
  | emptyPiece
  | badHex (digits : String)
  | unknownName (name : String)
deriving DecidableEq

def FlagsProblem.message : FlagsProblem → String
  | emptyPiece => "encountered empty flag"
  | badHex digits => s!"invalid hex flag `{digits}`"
  | unknownName name => s!"unrecognized named flag `{name}`"

namespace Flags

variable {kind : FlagKind}

/-- Hexadecimal digits, a plus sign allowed before them, that fit 32 bits. -/
def hexBits? (cs : List Char) : Option UInt32 := do
  let n ← Numeral.ofDigits? 16 (match cs with | '+' :: ds => ds | ds => ds)
  if n < UInt32.size then some (UInt32.ofNat n) else none

def readPiece (kind : FlagKind) : List Char → Except FlagsProblem UInt32
  | [] => .error .emptyPiece
  | '0' :: 'x' :: digits =>
    match hexBits? digits with
    | some bits => .ok bits
    | none => .error (.badHex (String.ofList digits))
  | cs =>
    match kind.names.lookup (String.ofList cs) with
    | some bits => .ok bits
    | none => .error (.unknownName (String.ofList cs))

/-- The union of the pieces between bars; a blank text is the empty word. -/
def read (kind : FlagKind) (s : String) : Except FlagsProblem (Flags kind) :=
  if (Text.trim s.toList).isEmpty then .ok empty
  else do
    let bits ← (Text.split '|' s.toList).mapM fun piece => readPiece kind (Text.trim piece)
    return ⟨bits.foldl (· ||| ·) 0⟩

end Flags

end DirectoryPull
