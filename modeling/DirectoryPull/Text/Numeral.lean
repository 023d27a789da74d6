/-!
# Numerals

Numbers as text in a base up to sixteen, most significant digit first.
-/

namespace DirectoryPull.Numeral

def digit (n : Nat) : Char := Char.ofNat (if n < 10 then 48 + n else 87 + n)

/-- The value of a digit, in either case. -/
def value? (c : Char) : Option Nat :=
  if '0' ≤ c ∧ c ≤ '9' then some (c.toNat - 48)
  else if 'a' ≤ c ∧ c ≤ 'f' then some (c.toNat - 87)
  else if 'A' ≤ c ∧ c ≤ 'F' then some (c.toNat - 55)
  else none

def isDecimal (c : Char) : Bool := '0' ≤ c ∧ c ≤ '9'

def isHex (c : Char) : Bool := (value? c).isSome

/-! ## Writing -/

/-- The digits of a number without leading zeros; zero has one digit. -/
def digits (base n : Nat) : List Char :=
  if n < base ∨ base < 2 then [digit n] else digits base (n / base) ++ [digit (n % base)]
termination_by n
decreasing_by exact Nat.div_lt_self (by omega) (by omega)

/-- Leading zeros up to a width. -/
def padded (base width n : Nat) : List Char :=
  let ds := digits base n
  List.replicate (width - ds.length) '0' ++ ds

def decimal (n : Nat) : String := String.ofList (digits 10 n)

def decimalInt (i : Int) : String := if i < 0 then "-" ++ decimal i.natAbs else decimal i.natAbs

def hex (n : Nat) : String := String.ofList (digits 16 n)

/-- The form of a 32-bit word in messages: eight hexadecimal digits after `0x`. -/
def word (n : UInt32) : String := "0x" ++ String.ofList (padded 16 8 n.toNat)

/-! ## Reading -/

/-- The value of a text of digits of the base; there is at least one. -/
def ofDigits? (base : Nat) (cs : List Char) : Option Nat :=
  if cs.isEmpty then none
  else cs.foldlM (fun n c => do
    let d ← value? c
    if d < base then some (n * base + d) else none) 0

end DirectoryPull.Numeral
