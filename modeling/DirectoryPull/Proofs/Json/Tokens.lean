import DirectoryPull.Json.Token
import DirectoryPull.Json.Value
import DirectoryPull.Proofs.Text.Numerals

/-!
# The tokens of a written value

The text of a value falls into the tokens one expects, whatever stands behind it, as long as that does not go on
with a number.
-/

namespace DirectoryPull.Json

/-! ## What is written, in tokens -/

def Literal.ofInt (n : Int) : Literal := ⟨n < 0, Numeral.digits 10 n.natAbs, none, none⟩

mutual

def toTokens : Json → List Token
  | null => [.null]
  | bool b => [.bool b]
  | int n => [.number (Literal.ofInt n).value?]
  | string s => [.string (some s)]
  | array items => .arrayStart :: itemTokens items ++ [.arrayEnd]
  | object members => .objectStart :: memberTokens members ++ [.objectEnd]

def itemTokens : List Json → List Token
  | [] => []
  | [j] => toTokens j
  | j :: js => toTokens j ++ .comma :: itemTokens js

def memberTokens : List (String × Json) → List Token
  | [] => []
  | [(name, j)] => .string (some name) :: .colon :: toTokens j
  | (name, j) :: ms => .string (some name) :: .colon :: toTokens j ++ .comma :: memberTokens ms

end

/-! ## One token -/

/-- No number goes on here. -/
def Ends (rest : List Char) : Prop := ∀ c ∈ rest.head?, c = ',' ∨ c = ']' ∨ c = '\x7d'

theorem tokens_of_first {cs rest : List Char} {t : Token} (hspace : ∀ c ∈ cs.head?, isSpace c = false)
    (h : first? cs = some (t, rest)) : tokens cs = t :: tokens rest := by
  cases cs with
  | nil => exact absurd h (by simp [first?, literal?, unsigned?, digitsAfter])
  | cons c cs =>
    rw [tokens, if_neg (by simp [hspace c rfl])]
    split <;> simp_all

theorem tokens_mark {c : Char} {t : Token} (hspace : isSpace c = false) (rest : List Char)
    (h : first? (c :: rest) = some (t, rest)) : tokens (c :: rest) = t :: tokens rest :=
  tokens_of_first (by simpa using hspace) h

/-! ## Strings -/

/-- What follows a character that has been read. -/
def behind (c : Char) (body : Option (List Piece × List Char)) : Option (List Piece × List Char) :=
  body.map fun (ps, rest) => (.char c :: ps, rest)

theorem stringBody_escape {c e : Char} (hu : c ≠ 'u') (h : simpleEscape? c = some e) (rest : List Char) :
    stringBody ('\\' :: c :: rest) = behind e (stringBody rest) := by
  rw [stringBody.eq_4 c rest fun _ _ _ _ _ hc _ => hu hc, h]
  cases stringBody rest <;> rfl

theorem stringBody_plain {c : Char} (hquote : c ≠ '"') (hslash : c ≠ '\\') (hcode : ¬ c < ' ') (rest : List Char) :
    stringBody (c :: rest) = behind c (stringBody rest) := by
  rw [stringBody.eq_5 c rest hquote (fun _ _ _ _ _ hc _ => hslash hc) (fun _ _ hc _ => hslash hc),
    if_neg (by simp [hcode, hslash])]
  cases stringBody rest <;> rfl

theorem stringBody_code {c : Char} (h : c < ' ') (rest : List Char) :
    stringBody ('\\' :: 'u' :: (Numeral.padded 16 4 c.toNat ++ rest)) = behind c (stringBody rest) := by
  have hsmall : c.toNat < 32 := h
  have hlength : (Numeral.padded 16 4 c.toNat).length = 4 := Numeral.length_padded (by omega) (by omega)
  have hvalue := Numeral.ofDigits_padded (by omega : 2 ≤ 16) (by omega) 4 c.toNat
  have hunit : Piece.ofUnit c.toNat = .char c := by
    have hhalf : isHalf c.toNat = false := by simp [isHalf]; omega
    rw [Piece.ofUnit, hhalf, if_neg (by simp), Char.ofNat_toNat]
  generalize Numeral.padded 16 4 c.toNat = ds at hlength hvalue
  match ds, hlength with
  | [x, y, z, w], _ =>
    simp only [List.cons_append, List.nil_append, stringBody, hvalue]
    cases stringBody rest with
    | none => rfl
    | some body => exact congrArg (fun p => some (p :: body.1, body.2)) hunit

theorem stringBody_escaped (c : Char) (rest : List Char) :
    stringBody (escapedChar c ++ rest) = behind c (stringBody rest) := by
  unfold escapedChar
  split
  case h_8 hquote hslash _ _ _ _ _ =>
    split
    · exact stringBody_code (by assumption) rest
    · exact stringBody_plain hquote hslash (by assumption) rest
  all_goals exact stringBody_escape (by decide) rfl rest

theorem stringBody_chars (cs rest : List Char) :
    stringBody (cs.flatMap escapedChar ++ '"' :: rest) = some (cs.map .char, rest) := by
  induction cs with
  | nil => rfl
  | cons c cs ih => rw [List.flatMap_cons, List.append_assoc, stringBody_escaped, ih]; rfl

theorem joined_chars (cs : List Char) : joined? (cs.map .char) = some cs := by
  induction cs with
  | nil => rfl
  | cons c cs ih => rw [List.map_cons, joined?, ih, Option.map_some]

theorem first_string (s : String) (rest : List Char) :
    first? (stringChars s ++ rest) = some (.string (some s), rest) := by
  have hbody := stringBody_chars s.toList rest
  have hchars : stringChars s ++ rest = '"' :: (s.toList.flatMap escapedChar ++ '"' :: rest) := by simp [stringChars]
  rw [hchars, first?, hbody]
  simp [joined_chars]

/-! ## Numbers -/

theorem digitsAfter_ends {ds rest : List Char} (hds : ∀ c ∈ ds, Numeral.isDecimal c = true) (h : Ends rest) :
    digitsAfter (ds ++ rest) = (ds, rest) := by
  have hrest : rest.takeWhile Numeral.isDecimal = [] ∧ rest.dropWhile Numeral.isDecimal = rest := by
    cases rest with
    | nil => exact ⟨rfl, rfl⟩
    | cons c rest => rcases h c rfl with rfl | rfl | rfl <;> exact ⟨rfl, rfl⟩
  rw [digitsAfter, List.takeWhile_append_of_pos hds, List.dropWhile_append_of_pos hds, hrest.1, hrest.2,
    List.append_nil]

theorem fraction_ends {rest : List Char} (h : Ends rest) : fraction? rest = some (none, rest) := by
  cases rest with
  | nil => rfl
  | cons c rest => rcases h c rfl with rfl | rfl | rfl <;> rfl

theorem exponent_ends {rest : List Char} (h : Ends rest) : exponent? rest = some (none, rest) := by
  cases rest with
  | nil => rfl
  | cons c rest => rcases h c rfl with rfl | rfl | rfl <;> rfl

/-- The digits of a number are a number, as it has no leading zero. -/
theorem unsigned_digits (negative : Bool) (n : Nat) {rest : List Char} (h : Ends rest) :
    unsigned? negative (Numeral.digits 10 n ++ rest) = some (⟨negative, Numeral.digits 10 n, none, none⟩, rest) := by
  have hlead : ¬ ((Numeral.digits 10 n).head? = some '0' ∧ 1 < (Numeral.digits 10 n).length) := by
    rintro ⟨hhead, hlength⟩
    rcases Nat.eq_zero_or_pos n with rfl | hn
    · simp [Numeral.digits_of_lt] at hlength
    · exact Numeral.head_digits (by omega) (by omega) hn hhead
  have hne := Numeral.digits_ne_nil 10 n
  simp only [unsigned?, digitsAfter_ends (Numeral.forall_isDecimal_digits n) h]
  rw [if_neg (by simpa [hne] using hlead), fraction_ends h]
  simp [exponent_ends h]

theorem first_decimal {c : Char} (h : Numeral.isDecimal c = true) (rest : List Char) :
    first? (c :: rest) = (unsigned? false (c :: rest)).map fun (l, rest) => (.number l.value?, rest) := by
  rw [first?.eq_11, literal?.eq_2]
  all_goals
    intro r heq
    exact Numeral.ne_of_isDecimal h (by decide) (List.cons.inj heq).1

theorem first_int (n : Int) {rest : List Char} (h : Ends rest) :
    first? ((Numeral.decimalInt n).toList ++ rest) = some (.number (Literal.ofInt n).value?, rest) := by
  have hread := unsigned_digits (n < 0) n.natAbs h
  rw [Numeral.toList_decimalInt, List.append_assoc]
  by_cases hn : n < 0
  · simp only [hn, decide_true] at hread
    rw [if_pos hn, List.cons_append, List.nil_append, first?.eq_11, literal?, hread]
    · simp [Literal.ofInt, hn]
    all_goals simp
  · obtain ⟨c, cs, hcons⟩ := List.exists_cons_of_ne_nil (Numeral.digits_ne_nil 10 n.natAbs)
    have hc := Numeral.forall_isDecimal_digits n.natAbs c (hcons ▸ List.mem_cons_self)
    simp only [hn, decide_false] at hread
    rw [if_neg hn, List.nil_append, hcons, List.cons_append, first_decimal hc, ← List.cons_append, ← hcons, hread]
    simp [Literal.ofInt, hn]

theorem isSpace_of_isDecimal {c : Char} (h : Numeral.isDecimal c = true) : isSpace c = false := by
  have hne : ∀ d, Numeral.isDecimal d = false → c ≠ d := fun _ hd => Numeral.ne_of_isDecimal h hd
  simp [isSpace, hne ' ' (by decide), hne '\n' (by decide), hne '\t' (by decide), hne '\r' (by decide)]

theorem tokens_int (n : Int) {rest : List Char} (h : Ends rest) :
    tokens ((Numeral.decimalInt n).toList ++ rest) = .number (Literal.ofInt n).value? :: tokens rest := by
  refine tokens_of_first (fun c hc => ?_) (first_int n h)
  rw [Numeral.toList_decimalInt, List.append_assoc] at hc
  split at hc
  · rw [← Option.some.inj hc]
    decide
  · have hne := Numeral.digits_ne_nil 10 n.natAbs
    rw [List.nil_append, List.head?_append, Option.or_of_isSome (by simp [hne])] at hc
    exact isSpace_of_isDecimal (Numeral.forall_isDecimal_digits n.natAbs c (List.mem_of_mem_head? hc))

/-! ## Whole values -/

theorem tokens_string (s : String) (rest : List Char) :
    tokens (stringChars s ++ rest) = .string (some s) :: tokens rest := by
  refine tokens_of_first (fun c hc => ?_) (first_string s rest)
  rw [← Option.some.inj hc]
  decide

theorem tokens_colon (rest : List Char) : tokens (':' :: rest) = .colon :: tokens rest := tokens_mark rfl rest rfl

theorem tokens_comma (rest : List Char) : tokens (',' :: rest) = .comma :: tokens rest := tokens_mark rfl rest rfl

mutual

theorem tokens_chars : ∀ (j : Json) (rest : List Char), Ends rest → tokens (j.chars ++ rest) = j.toTokens ++ tokens rest
  | null, _, _ => tokens_of_first (by simp [chars, isSpace]) rfl
  | bool true, _, _ => tokens_of_first (by simp [chars, isSpace]) rfl
  | bool false, _, _ => tokens_of_first (by simp [chars, isSpace]) rfl
  | int n, _, h => tokens_int n h
  | string s, rest, _ => tokens_string s rest
  | array items, rest, _ => by
    have hitems := tokens_itemChars items (']' :: rest) (by simp [Ends])
    have hclosed : tokens (']' :: rest) = .arrayEnd :: tokens rest := tokens_mark rfl rest rfl
    have hchars : (array items).chars ++ rest = '[' :: (itemChars items ++ ']' :: rest) := by simp [chars]
    rw [hchars, tokens_mark (t := .arrayStart) rfl _ rfl, hitems, hclosed, toTokens]
    simp
  | object members, rest, _ => by
    have hmembers := tokens_memberChars members ('\x7d' :: rest) (by simp [Ends])
    have hclosed : tokens ('\x7d' :: rest) = .objectEnd :: tokens rest := tokens_mark rfl rest rfl
    have hchars : (object members).chars ++ rest = '\x7b' :: (memberChars members ++ '\x7d' :: rest) := by simp [chars]
    rw [hchars, tokens_mark (t := .objectStart) rfl _ rfl, hmembers, hclosed, toTokens]
    simp

theorem tokens_itemChars : ∀ (js : List Json) (rest : List Char), Ends rest →
    tokens (itemChars js ++ rest) = itemTokens js ++ tokens rest
  | [], _, _ => rfl
  | [j], rest, h => tokens_chars j rest h
  | j :: k :: js, rest, h => by
    have hfirst := tokens_chars j (',' :: (itemChars (k :: js) ++ rest)) (by simp [Ends])
    have hrest := tokens_itemChars (k :: js) rest h
    have hchars : itemChars (j :: k :: js) ++ rest = chars j ++ ',' :: (itemChars (k :: js) ++ rest) := by
      rw [itemChars.eq_3 j _ (by simp), List.append_assoc, List.cons_append]
    rw [hchars, hfirst, tokens_comma, hrest, itemTokens.eq_3 j _ (by simp), List.append_assoc, List.cons_append]

theorem tokens_memberChars : ∀ (ms : List (String × Json)) (rest : List Char), Ends rest →
    tokens (memberChars ms ++ rest) = memberTokens ms ++ tokens rest
  | [], _, _ => rfl
  | [(name, j)], rest, h => by
    have hvalue := tokens_chars j rest h
    rw [memberChars, memberTokens, List.append_assoc, tokens_string, List.cons_append, tokens_colon, hvalue]
    simp
  | (name, j) :: m :: ms, rest, h => by
    have hvalue := tokens_chars j (',' :: (memberChars (m :: ms) ++ rest)) (by simp [Ends])
    have hrest := tokens_memberChars (m :: ms) rest h
    have hchars : memberChars ((name, j) :: m :: ms) ++ rest =
        stringChars name ++ ':' :: (chars j ++ ',' :: (memberChars (m :: ms) ++ rest)) := by
      rw [memberChars.eq_3 name j _ (by simp)]
      simp
    rw [hchars, tokens_string, tokens_colon, hvalue, tokens_comma, hrest, memberTokens.eq_3 name j _ (by simp)]
    simp

end

theorem tokens_text (j : Json) : tokens j.text.toList = j.toTokens := by
  have hread := tokens_chars j [] (by simp [Ends])
  rwa [List.append_nil, tokens, List.append_nil, ← String.toList_ofList (l := j.chars)] at hread

end DirectoryPull.Json
