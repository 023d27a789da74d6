import DirectoryPull.Json.Number

/-!
# The tokens of a JSON text

A text is cut into tokens up to the first place at which none can start.
-/

namespace DirectoryPull.Json

inductive Token
  | arrayStart
  | arrayEnd
  | objectStart
  | objectEnd
  | comma
  | colon
  | null
  | bool (b : Bool)
  /-- None is a number out of range. -/
  | number (n : Option Number)
  /-- None is a string with half of a surrogate pair. -/
  | string (s : Option String)
  /-- Nothing that JSON knows. -/
  | bad

/-! ## Strings -/

/-- What one character or escape of a string stands for. -/
inductive Piece
  | char (c : Char)
  /-- Half of a surrogate pair. -/
  | half (unit : Nat)

def simpleEscape? : Char → Option Char
  | '"' => some '"'
  | '\\' => some '\\'
  | '/' => some '/'
  | 'b' => some '\x08'
  | 'f' => some '\x0c'
  | 'n' => some '\n'
  | 'r' => some '\r'
  | 't' => some '\t'
  | _ => none

def isHalf (n : Nat) : Bool := 0xD800 ≤ n && n ≤ 0xDFFF

def Piece.ofUnit (n : Nat) : Piece := if isHalf n then .half n else .char (Char.ofNat n)

/-- The pieces up to the closing quote, and what follows it. -/
def stringBody : List Char → Option (List Piece × List Char)
  | [] => none
  | '"' :: rest => some ([], rest)
  | '\\' :: 'u' :: a :: b :: c :: d :: rest => do
    let unit ← Numeral.ofDigits? 16 [a, b, c, d]
    let (pieces, rest) ← stringBody rest
    return (.ofUnit unit :: pieces, rest)
  | '\\' :: c :: rest => do
    let e ← simpleEscape? c
    let (pieces, rest) ← stringBody rest
    return (.char e :: pieces, rest)
  | c :: rest =>
    if c < ' ' || c = '\\' then none
    else do
      let (pieces, rest) ← stringBody rest
      return (.char c :: pieces, rest)

/-- Joins the halves of each pair; a half on its own has no text. -/
def joined? : List Piece → Option (List Char)
  | [] => some []
  | .char c :: ps => (joined? ps).map (c :: ·)
  | .half high :: .half low :: ps =>
    if high < 0xDC00 ∧ 0xDC00 ≤ low then
      (joined? ps).map (Char.ofNat (0x10000 + (high - 0xD800) * 0x400 + (low - 0xDC00)) :: ·)
    else none
  | .half _ :: _ => none

/-! ## Numbers -/

def digitsAfter (cs : List Char) : List Char × List Char :=
  (cs.takeWhile Numeral.isDecimal, cs.dropWhile Numeral.isDecimal)

/-- The digits after a point, where there is one; a point needs a digit. -/
def fraction? (cs : List Char) : Option (Option (List Char) × List Char) :=
  match cs with
  | '.' :: cs =>
    let (ds, rest) := digitsAfter cs
    if ds.isEmpty then none else some (some ds, rest)
  | cs => some (none, cs)

def exponentDigits? (minus : Bool) (cs : List Char) : Option (Option (Bool × List Char) × List Char) :=
  let (ds, rest) := digitsAfter cs
  if ds.isEmpty then none else some (some (minus, ds), rest)

def exponent? (cs : List Char) : Option (Option (Bool × List Char) × List Char) :=
  match cs with
  | c :: rest =>
    if c = 'e' ∨ c = 'E' then
      match rest with
      | '-' :: rest => exponentDigits? true rest
      | '+' :: rest => exponentDigits? false rest
      | rest => exponentDigits? false rest
    else some (none, c :: rest)
  | [] => some (none, [])

/-- A number behind its sign: no digit follows a leading zero. -/
def unsigned? (negative : Bool) (cs : List Char) : Option (Literal × List Char) := do
  let (whole, rest) := digitsAfter cs
  if whole.isEmpty || (whole.head? = some '0' && whole.length > 1) then none
  else
    let (fraction, rest) ← fraction? rest
    let (exponent, rest) ← exponent? rest
    return (⟨negative, whole, fraction, exponent⟩, rest)

def literal? : List Char → Option (Literal × List Char)
  | '-' :: cs => unsigned? true cs
  | cs => unsigned? false cs

/-! ## Tokens -/

def isSpace (c : Char) : Bool := c = ' ' || c = '\n' || c = '\t' || c = '\r'

/-- The first token of a text that does not start with a space, and what follows it. -/
def first? : List Char → Option (Token × List Char)
  | '[' :: rest => some (.arrayStart, rest)
  | ']' :: rest => some (.arrayEnd, rest)
  | '\x7b' :: rest => some (.objectStart, rest)
  | '\x7d' :: rest => some (.objectEnd, rest)
  | ',' :: rest => some (.comma, rest)
  | ':' :: rest => some (.colon, rest)
  | 'n' :: 'u' :: 'l' :: 'l' :: rest => some (.null, rest)
  | 't' :: 'r' :: 'u' :: 'e' :: rest => some (.bool true, rest)
  | 'f' :: 'a' :: 'l' :: 's' :: 'e' :: rest => some (.bool false, rest)
  | '"' :: rest => (stringBody rest).map fun (ps, rest) => (.string ((joined? ps).map String.ofList), rest)
  | cs => (literal? cs).map fun (l, rest) => (.number l.value?, rest)

/-! ## Every token is taken off the front -/

theorem length_stringBody {cs rest : List Char} {ps : List Piece} (h : stringBody cs = some (ps, rest)) :
    rest.length < cs.length := by
  fun_induction stringBody cs generalizing ps rest with
  | case1 => simp at h
  | case2 => simp at h; simp [h]
  | case3 a b c d cs ih =>
    simp only [Option.bind_eq_bind, Option.bind_eq_some_iff, Option.pure_def] at h
    obtain ⟨_, _, ⟨ps', r⟩, hr, he⟩ := h
    have := ih hr
    simp only [Option.some.injEq, Prod.mk.injEq] at he
    simp only [← he.2, List.length_cons]
    omega
  | case4 c cs _ ih =>
    simp only [Option.bind_eq_bind, Option.bind_eq_some_iff, Option.pure_def] at h
    obtain ⟨_, _, ⟨ps', r⟩, hr, he⟩ := h
    have := ih hr
    simp only [Option.some.injEq, Prod.mk.injEq] at he
    simp only [← he.2, List.length_cons]
    omega
  | case5 => simp at h
  | case6 c cs _ _ _ _ ih =>
    simp only [Option.bind_eq_bind, Option.bind_eq_some_iff, Option.pure_def] at h
    obtain ⟨⟨ps', r⟩, hr, he⟩ := h
    have := ih hr
    simp only [Option.some.injEq, Prod.mk.injEq] at he
    simp only [← he.2, List.length_cons]
    omega

theorem length_digitsAfter (cs : List Char) : (digitsAfter cs).1.length + (digitsAfter cs).2.length = cs.length := by
  rw [digitsAfter, ← List.length_append, List.takeWhile_append_dropWhile]

theorem length_fraction {cs rest : List Char} {f} (h : fraction? cs = some (f, rest)) :
    rest.length ≤ cs.length := by
  unfold fraction? at h
  split at h
  · rename_i cs
    have := length_digitsAfter cs
    grind
  · grind

theorem length_exponentDigits {minus : Bool} {cs rest : List Char} {e}
    (h : exponentDigits? minus cs = some (e, rest)) : rest.length ≤ cs.length := by
  have := length_digitsAfter cs
  unfold exponentDigits? at h
  grind

theorem length_exponent {cs rest : List Char} {e} (h : exponent? cs = some (e, rest)) :
    rest.length ≤ cs.length := by
  unfold exponent? at h
  split at h
  · split at h
    · split at h <;> have := length_exponentDigits h <;> grind
    · grind
  · grind

theorem length_unsigned {negative : Bool} {cs rest : List Char} {l : Literal}
    (h : unsigned? negative cs = some (l, rest)) : rest.length < cs.length := by
  have hd := length_digitsAfter cs
  unfold unsigned? at h
  simp only [Option.bind_eq_bind, Option.pure_def] at h
  split at h
  · simp at h
  · rename_i hne
    simp only [Option.bind_eq_some_iff] at h
    obtain ⟨⟨f, r⟩, hf, ⟨e, r'⟩, he, heq⟩ := h
    have := length_fraction hf
    have := length_exponent he
    have : (digitsAfter cs).1 ≠ [] := by simp_all
    have := List.length_pos_iff.mpr this
    grind

theorem length_literal {cs rest : List Char} {l : Literal} (h : literal? cs = some (l, rest)) :
    rest.length < cs.length := by
  unfold literal? at h
  split at h <;> have := length_unsigned h <;> grind

theorem length_first {cs rest : List Char} {t : Token} (h : first? cs = some (t, rest)) :
    rest.length < cs.length := by
  unfold first? at h
  split at h
  case h_10 =>
    simp only [Option.map_eq_some_iff] at h
    obtain ⟨⟨ps, r⟩, hr, he⟩ := h
    have := length_stringBody hr
    grind
  case h_11 =>
    simp only [Option.map_eq_some_iff] at h
    obtain ⟨⟨l, r⟩, hr, he⟩ := h
    have := length_literal hr
    grind
  all_goals grind

/-- The tokens of a text; spaces between them mean nothing. -/
def tokens (cs : List Char) : List Token :=
  match cs with
  | [] => []
  | c :: rest =>
    if isSpace c then tokens rest
    else match _h : first? (c :: rest) with
      | none => [.bad]
      | some (t, rest') => t :: tokens rest'
termination_by cs.length
decreasing_by
  · simp
  · exact length_first _h

end DirectoryPull.Json
