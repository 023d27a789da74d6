import DirectoryPull.Text.Shortest

/-!
# Numbers in a JSON text

A number is an integer while it fits 64 bits and a double otherwise. A double is built from at most 64 bits
of digits, multiplied or divided by a power of ten.
-/

namespace DirectoryPull.Json

inductive Number
  | integer (n : Int)
  | double (value : Float)

structure Literal where
  negative : Bool
  whole : List Char
  fraction : Option (List Char)
  /-- The exponent's digits, and whether a minus stands before them. -/
  exponent : Option (Bool × List Char)

namespace Literal

def digitValue (c : Char) : Nat := c.toNat - 48

def wholeValue (ds : List Char) : Nat := ds.foldl (fun n c => n * 10 + digitValue c) 0

/-! ## The digits kept -/

/-- Digits collected into 64 bits, and the power of ten they stand at. -/
structure Digits where
  kept : Nat
  power : Int

/-- The digits before the point: those after the first that does not fit only count. -/
def Digits.ofWhole (ds : List Char) : Digits :=
  (ds.foldl (fun (d, full) c =>
    let next := d.kept * 10 + digitValue c
    if full || next ≥ UInt64.size then (⟨d.kept, d.power + 1⟩, true) else (⟨next, d.power⟩, false))
    ((⟨0, 0⟩ : Digits), false)).1

/-- The digits after the point, up to the first that does not fit. -/
def Digits.withFraction (d : Digits) : List Char → Digits
  | [] => d
  | c :: cs =>
    let next := d.kept * 10 + digitValue c
    if next ≥ UInt64.size then d else withFraction ⟨next, d.power - 1⟩ cs

/-! ## Scaling -/

def tenTo (n : Nat) : Float := Float.ofScientific 1 false n

/-- The value times a power of ten; a value too large for a double is none. -/
def scale (f : Float) (e : Int) : Option Float :=
  if e.natAbs ≤ 308 then
    if 0 ≤ e then
      let g := f * tenTo e.natAbs
      if g.isInf then none else some g
    else some (f / tenTo e.natAbs)
  else if f == 0 then some f
  else if 0 ≤ e then none
  else scale (f / tenTo 308) (e + 308)
termination_by e.natAbs

/-- Exponents are held in 32 bits. -/
def maxExponent : Nat := UInt32.size / 2 - 1

def clamp (e : Int) : Int := max (-(maxExponent + 1)) (min e maxExponent)

/-- The size of the number, without its sign. -/
def size? (l : Literal) : Option Float :=
  let d := (Digits.ofWhole l.whole).withFraction (l.fraction.getD [])
  let f := (UInt64.ofNat d.kept).toFloat
  match l.exponent with
  | none => scale f d.power
  | some (minus, ds) =>
    let e := wholeValue ds
    if e > maxExponent then if d.kept ≠ 0 && !minus then none else some 0
    else scale f (clamp (d.power + if minus then -(e : Int) else e))

def double? (l : Literal) : Option Number :=
  l.size?.map fun f => .double (if l.negative then -f else f)

/-- The number, unless it is out of range. -/
def value? (l : Literal) : Option Number :=
  let n := wholeValue l.whole
  if l.fraction.isSome || l.exponent.isSome then l.double?
  else if l.negative then if n = 0 || n > UInt64.size / 2 then l.double? else some (.integer (-n))
  else if n < UInt64.size then some (.integer n) else l.double?

end Literal

end DirectoryPull.Json
