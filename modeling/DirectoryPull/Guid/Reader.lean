import DirectoryPull.Guid.Basic
import DirectoryPull.Text.Blank

/-!
# Reading identifiers

An identifier is written as 32 digits, in five hyphenated groups, or as such groups in braces or behind
`urn:uuid:`. Any other text is refused with the first thing found wrong with it.
-/

namespace DirectoryPull

inductive GuidProblem
  | character (found : Char) (index : Nat)
  | length (bytes : Nat)
  | groupCount (found : Nat)
  | groupLength (group expected found : Nat)
deriving DecidableEq

def GuidProblem.message : GuidProblem → String
  | character c i => s!"invalid character: found `{c}` at {i}"
  | length n => s!"invalid length: found {n}"
  | groupCount n => s!"invalid group count: expected 5, found {n}"
  | groupLength g e n => s!"invalid group length in group {g}: expected {e}, found {n}"

namespace Guid

/-! ## The four accepted forms -/

def bytesOfHex? : List Char → Option (List UInt8)
  | [] => some []
  | [_] => none
  | a :: b :: rest => do
    let high ← Numeral.value? a
    let low ← Numeral.value? b
    let bytes ← bytesOfHex? rest
    return UInt8.ofNat (16 * high + low) :: bytes

def ofDigits? (cs : List Char) : Option Guid := bytesOfHex? cs >>= ofBytes?

def ofGroups? (cs : List Char) : Option Guid :=
  let groups := Text.split '-' cs
  if groups.map List.length = [8, 4, 4, 4, 12] then ofDigits? groups.flatten else none

/-- The text between braces. -/
def unbraced? : List Char → Option (List Char)
  | '\x7b' :: cs => if cs.getLast? = some '\x7d' then some cs.dropLast else none
  | _ => none

def urnMark : List Char := "urn:uuid:".toList

/-- The text behind the mark, which may be in any case. -/
def unmarked? (cs : List Char) : Option (List Char) :=
  if (cs.take urnMark.length).map Char.toLower = urnMark then some (cs.drop urnMark.length) else none

def ofChars? (cs : List Char) : Option Guid :=
  (ofDigits? cs).or <| (ofGroups? cs).or <|
    ((unbraced? cs).bind ofGroups?).or ((unmarked? cs).bind ofGroups?)

/-! ## What is wrong with a refused text -/

def byteCount (cs : List Char) : Nat := cs.foldl (fun n c => n + c.utf8Size) 0

/-- Where the hyphens stand, counted in bytes; `start` is the place of the first character in the whole text. -/
def hyphens (start at_ : Nat) : List Char → Except GuidProblem (List Nat)
  | [] => .ok []
  | c :: cs =>
    if c = '-' then (at_ :: ·) <$> hyphens start (at_ + 1) cs
    else if Numeral.isHex c then hyphens start (at_ + 1) cs
    else .error (.character c (at_ + start))

/-- Place, place of the group's start and length of the first four groups. -/
def groupPlaces : List (Nat × Nat × Nat) := [(8, 0, 8), (13, 9, 4), (18, 14, 4), (23, 19, 4)]

/-- The first group of the wrong length, given where four hyphens stand. -/
def groupProblem (size : Nat) (places : List Nat) : GuidProblem :=
  match ((places.zip groupPlaces).zipIdx.find? fun ((p, stop, _), _) => p ≠ stop) with
  | some ((p, _, first, wanted), i) => .groupLength i wanted (p - first)
  | none => .groupLength 4 12 (size - 24)

/-- The problem of a text that may still be framed, with the size of the whole. -/
def problemWithin (size start : Nat) (plain : Bool) (cs : List Char) : GuidProblem :=
  match hyphens start 0 cs with
  | .error p => p
  | .ok places =>
    if plain && places.isEmpty then .length size
    else if places.length ≠ 4 then .groupCount (places.length + 1)
    else groupProblem size places

def problemOfFramed (cs : List Char) : GuidProblem :=
  match unbraced? cs, unmarked? cs with
  | some inner, _ => problemWithin (byteCount cs) 1 false inner
  | none, some rest => problemWithin (byteCount cs) urnMark.length false rest
  | none, none => problemWithin (byteCount cs) 0 true cs

/-- A text of the size of one of the hyphenated forms is looked at as such groups. -/
def problem (cs : List Char) : GuidProblem :=
  let asGroups := fun inner => problemWithin (byteCount inner) 0 false inner
  match byteCount cs, unbraced? cs, unmarked? cs with
  | 36, _, _ => asGroups cs
  | 38, some inner, _ => asGroups inner
  | 45, _, some rest => asGroups rest
  | size, _, _ => if size = 0 ∨ size > 45 then .length size else problemOfFramed cs

def read (s : String) : Except GuidProblem Guid :=
  match ofChars? s.toList with
  | some g => .ok g
  | none => .error (problem s.toList)

end Guid

end DirectoryPull
