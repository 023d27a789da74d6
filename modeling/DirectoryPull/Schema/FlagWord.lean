import DirectoryPull.Schema.Source
import DirectoryPull.Text.Numeral

/-!
# Flag words in records

A directory writes a 32-bit word as a decimal number, signed or not.
-/

namespace DirectoryPull.FlagWord

/-- The number that an optional sign and digits stand for. -/
def number? : List Char → Option Int
  | '+' :: ds => (Numeral.ofDigits? 10 ds).map Int.ofNat
  | '-' :: ds => (Numeral.ofDigits? 10 ds).map fun n : Nat => -(n : Int)
  | ds => (Numeral.ofDigits? 10 ds).map Int.ofNat

def inRange (v : Int) : Bool := Int32.minValue.toInt ≤ v && v < UInt32.size

/-- The word with the bit pattern of a number. -/
def ofInt (v : Int) : UInt32 := UInt32.ofNat (v % UInt32.size).toNat

/-- Blanks around the number do not count. -/
def read? (raw : String) : Option UInt32 := ((number? (Text.trim raw.toList)).filter inRange).map ofInt

/-- The word under a name; without the attribute no flag is set. -/
def ofEntry (e : SearchEntry) (name : String) : Except SchemaError UInt32 :=
  match e.first name with
  | none => .ok 0
  | some raw =>
    match read? raw with
    | some word => .ok word
    | none => .error (.malformed e.dn s!"{name} is not a 32-bit integer: {raw}")

end DirectoryPull.FlagWord
