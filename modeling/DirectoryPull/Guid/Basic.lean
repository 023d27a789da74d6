import DirectoryPull.Text.Numeral

/-!
# Directory identifiers

Sixteen bytes naming a server, a change history or an object. All zeros means that no identity is set.
-/

namespace DirectoryPull

structure Guid where
  bytes : List UInt8
  size : bytes.length = 16 := by decide
deriving DecidableEq

namespace Guid

def fill (b : UInt8) : Guid := ⟨List.replicate 16 b, List.length_replicate⟩

def nil : Guid := fill 0

instance : Inhabited Guid := ⟨nil⟩

def isNil (g : Guid) : Bool := g == nil

def ofBytes? (bytes : List UInt8) : Option Guid :=
  if h : bytes.length = 16 then some ⟨bytes, h⟩ else none

/-- The order of the bytes, the first one deciding first. -/
def compare (a b : Guid) : Ordering := List.compareLex (fun x y => Ord.compare x.toNat y.toNat) a.bytes b.bytes

/-! ## Text -/

def hexPairs (bytes : List UInt8) : List Char := bytes.flatMap fun b => Numeral.padded 16 2 b.toNat

/-- Groups of 8, 4, 4, 4 and 12 digits between hyphens. -/
def chars (g : Guid) : List Char :=
  hexPairs (g.bytes.take 4) ++ '-' :: (hexPairs ((g.bytes.drop 4).take 2) ++
    '-' :: (hexPairs ((g.bytes.drop 6).take 2) ++ '-' :: (hexPairs ((g.bytes.drop 8).take 2) ++
      '-' :: hexPairs (g.bytes.drop 10))))

def text (g : Guid) : String := String.ofList g.chars

end Guid

end DirectoryPull
