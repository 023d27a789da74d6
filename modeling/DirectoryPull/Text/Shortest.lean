import DirectoryPull.Text.Numeral

/-!
# The shortest decimal

A binary fraction is written with the fewest digits that still read back as the same fraction.
-/

namespace DirectoryPull.Shortest

/-- A value with the ends of the interval of reals that round to it, as numerators over one denominator. -/
structure Span where
  value : Nat
  low : Nat
  high : Nat
  denominator : Nat
  /-- The ends themselves round to the value. -/
  closed : Bool

/-- The span of `m * 2 ^ q`; below a power of two the next fraction is nearer (`low` is closer then). -/
def span (m : Nat) (q : Int) (isPower : Bool) : Span :=
  let up := Nat.pow 2 q.toNat
  ⟨4 * m * up, (4 * m - if isPower then 1 else 2) * up, (4 * m + 2) * up, 4 * Nat.pow 2 (-q).toNat, m % 2 = 0⟩

/-- Numerator and denominator of a power of ten. -/
def tenTo (e : Int) : Nat × Nat := (Nat.pow 10 e.toNat, Nat.pow 10 (-e).toNat)

def holds (s : Span) (d : Nat) (e : Int) : Bool :=
  let (up, down) := tenTo e
  let x := d * up * s.denominator
  let low := s.low * down
  let high := s.high * down
  (low < x && x < high) || (s.closed && (x == low || x == high))

/-- The multiple of a power of ten in the span that is nearest to the value; of two equally near the even one. -/
def onGrid? (s : Span) (e : Int) : Option Nat :=
  let (up, down) := tenTo e
  let unit := up * s.denominator
  let below := s.value * down / unit
  let above := below + 1
  match holds s below e && below != 0, holds s above e with
  | true, true =>
    let left := s.value * down - below * unit
    let right := above * unit - s.value * down
    some (if left < right || (left == right && below % 2 == 0) then below else above)
  | true, false => some below
  | false, true => some above
  | false, false => none

/-- Digits and exponent on the coarsest grid that has a point in the span, from `10 ^ e` downwards. -/
def search (s : Span) : Nat → Int → Nat × Int
  | 0, e => (0, e)
  | steps + 1, e =>
    match onGrid? s e with
    | some d => (d, e)
    | none => search s steps (e - 1)

/-- Digits and exponent of a positive finite double, given its bits without the sign. -/
def ofBits (bits : Nat) : Nat × Int :=
  let exponent : Nat := bits / Nat.pow 2 52
  let fraction : Nat := bits % Nat.pow 2 52
  let s :=
    if exponent = 0 then span fraction (-1074) false
    else span (Nat.pow 2 52 + fraction) ((exponent : Int) - 1075) (fraction == 0 && exponent != 1)
  search s 640 309

/-! ## Notation -/

/-- Numbers from a hundred-thousandth up to sixteen digits are positional; a number always shows as a fraction. -/
def positional (ds : List Char) (e : Int) : List Char :=
  let point := ds.length + e
  if 0 ≤ e then ds ++ List.replicate e.toNat '0' ++ ['.', '0']
  else if 0 < point then ds.take point.toNat ++ '.' :: ds.drop point.toNat
  else '0' :: '.' :: (List.replicate (-point).toNat '0' ++ ds)

/-- One digit before the point, and the exponent with its sign. -/
def scientific (ds : List Char) (x : Int) : List Char :=
  ds.take 1 ++ (if ds.length > 1 then '.' :: ds.drop 1 else []) ++
    ['e', if x < 0 then '-' else '+'] ++ Numeral.digits 10 x.natAbs

def layout (d : Nat) (e : Int) : List Char :=
  let ds := Numeral.digits 10 d
  let x := e + ds.length - 1
  if -5 ≤ x ∧ x ≤ 15 then positional ds e else scientific ds x

def text (f : Float) : String :=
  let bits := f.toBits.toNat
  let sign := if bits / Nat.pow 2 63 = 0 then [] else ['-']
  let size := bits % Nat.pow 2 63
  let (d, e) := ofBits size
  String.ofList (sign ++ if size = 0 then ['0', '.', '0'] else layout d e)

end DirectoryPull.Shortest
