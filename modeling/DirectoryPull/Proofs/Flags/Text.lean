import DirectoryPull.Flags.Text
import DirectoryPull.Proofs.Text.Cuts
import DirectoryPull.Proofs.Text.Numerals

/-!
# Flag words and their text

Every bit of a word is written, under the first name that has it or in the number at the end, and nothing else is.
So the word is read back from its text, whatever bits are set.
-/

namespace DirectoryPull.Flags

variable {kind : FlagKind}

/-! ## Bits -/

def hasBit (w : UInt32) (i : Nat) : Bool := w.toBitVec.getLsbD i

theorem eq_of_hasBit {a b : UInt32} (h : ∀ i, hasBit a i = hasBit b i) : a = b :=
  UInt32.toBitVec_inj.mp (BitVec.eq_of_getLsbD_eq fun i _ => h i)

theorem hasBit_zero (i : Nat) : hasBit 0 i = false := BitVec.getLsbD_zero

theorem hasBit_or (a b : UInt32) (i : Nat) : hasBit (a ||| b) i = (hasBit a i || hasBit b i) := by
  simp only [hasBit, UInt32.toBitVec_or, BitVec.getLsbD_or]

theorem hasBit_diff (a b : UInt32) (i : Nat) : hasBit (a &&& ~~~b) i = (hasBit a i && !hasBit b i) := by
  simp only [hasBit, UInt32.toBitVec_and, UInt32.toBitVec_not, BitVec.getLsbD_and, BitVec.getLsbD_not]
  by_cases hi : i < 32
  · simp [hi]
  · simp [BitVec.getLsbD_of_ge _ _ (Nat.le_of_not_lt hi)]

theorem hasBit_of_contained {a b : UInt32} (h : a &&& b = b) {i : Nat} (hi : hasBit b i = true) :
    hasBit a i = true := by
  rw [← h, hasBit, UInt32.toBitVec_and, BitVec.getLsbD_and, Bool.and_eq_true] at hi
  exact hi.1

theorem hasBit_union (bs : List UInt32) (w : UInt32) (i : Nat) :
    hasBit (bs.foldl (· ||| ·) w) i = (hasBit w i || bs.any fun b => hasBit b i) := by
  induction bs generalizing w with
  | nil => simp
  | cons b bs ih => rw [List.foldl_cons, ih, hasBit_or, List.any_cons, Bool.or_assoc]

/-! ## What is written -/

/-- The bits that a name stands for. -/
def bitsOf (kind : FlagKind) (name : String) : UInt32 := (kind.names.lookup name).getD 0

/-- Some name of a list has the bit. -/
def Named (kind : FlagKind) (names : List String) (i : Nat) : Prop := ∃ n ∈ names, hasBit (bitsOf kind n) i = true

theorem named_cons {name : String} {names : List String} {i : Nat} :
    Named kind (name :: names) i ↔ hasBit (bitsOf kind name) i = true ∨ Named kind names i := by
  simp [Named]

/-- A bit that is still to be written comes under a name or stays; no name adds a bit that is not in the word. -/
theorem nameBits_covers {word left : UInt32} {table : List (String × UInt32)}
    (htable : ∀ p ∈ table, bitsOf kind p.1 = p.2) (i : Nat) :
    (hasBit left i = true → Named kind (nameBits word table left).1 i ∨ hasBit (nameBits word table left).2 i = true) ∧
      (hasBit (nameBits word table left).2 i = true → hasBit left i = true) ∧
      (Named kind (nameBits word table left).1 i → hasBit word i = true) := by
  fun_induction nameBits word table left with
  | case1 left => simp [Named]
  | case2 name b table left hadd rest left' hrec ih =>
    have hname : bitsOf kind name = b := htable _ List.mem_cons_self
    have hb : word &&& b = b := by simp_all
    obtain ⟨hstays, hleft, hword⟩ := ih fun p hp => htable p (List.mem_cons_of_mem _ hp)
    rw [hrec, hasBit_diff] at hstays hleft
    rw [hrec] at hword
    simp only [named_cons, hname]
    refine ⟨fun hi => ?_, fun hi => ?_, ?_⟩
    · by_cases hbi : hasBit b i = true
      · exact Or.inl (Or.inl hbi)
      · exact (hstays (by simp [hi, hbi])).imp_left Or.inr
    · exact ((Bool.and_eq_true _ _).mp (hleft hi)).1
    · rintro (hi | hi)
      · exact hasBit_of_contained hb hi
      · exact hword hi
  | case3 name b table left hskip ih => exact ih fun p hp => htable p (List.mem_cons_of_mem _ hp)

/-! ## The names -/

/-- A name stands for its own bits, and is no number and nothing that a cut at the bars would change. -/
structure IsName (kind : FlagKind) (name : String) : Prop where
  bits : kind.names.lookup name = some (bitsOf kind name)
  head : name.toList.head? ≠ some '0'
  ne_nil : name.toList ≠ []
  bar : '|' ∉ name.toList
  trimmed : Text.Trimmed name.toList

theorem isName_of_mem {p : String × UInt32} (h : p ∈ kind.names) : IsName kind p.1 ∧ bitsOf kind p.1 = p.2 := by
  have htable : ∀ p ∈ kind.names, kind.names.lookup p.1 = some p.2 ∧ p.1.toList.head? ≠ some '0' ∧
      p.1.toList ≠ [] ∧ '|' ∉ p.1.toList ∧ Text.Trimmed p.1.toList := by
    cases kind <;> decide +kernel
  obtain ⟨hbits, hhead, hne, hbar, htrim⟩ := htable p h
  have hbitsOf : bitsOf kind p.1 = p.2 := by rw [bitsOf, hbits, Option.getD_some]
  exact ⟨⟨hbitsOf ▸ hbits, hhead, hne, hbar, htrim⟩, hbitsOf⟩

theorem mem_nameBits {word left : UInt32} {table : List (String × UInt32)} {name : String}
    (h : name ∈ (nameBits word table left).1) : ∃ b, (name, b) ∈ table := by
  fun_induction nameBits word table left with
  | case1 => simp at h
  | case2 name' b table left hadd rest left' hrec ih =>
    rcases List.mem_cons.mp h with rfl | h
    · exact ⟨b, List.mem_cons_self⟩
    · obtain ⟨b', hb'⟩ := ih (hrec ▸ h)
      exact ⟨b', List.mem_cons_of_mem _ hb'⟩
  | case3 name' b table left hskip ih =>
    obtain ⟨b', hb'⟩ := ih h
    exact ⟨b', List.mem_cons_of_mem _ hb'⟩

theorem isName_of_mem_names {f : Flags kind} {name : String} (h : name ∈ f.names) : IsName kind name := by
  obtain ⟨b, hb⟩ := mem_nameBits h
  exact (isName_of_mem hb).1

/-! ## One piece -/

theorem readPiece_name {name : String} (h : IsName kind name) :
    readPiece kind name.toList = .ok (bitsOf kind name) := by
  have hlookup : kind.names.lookup (String.ofList name.toList) = some (bitsOf kind name) := by
    rw [String.ofList_toList, h.bits]
  have hne := h.ne_nil
  have hhead := h.head
  generalize name.toList = cs at hlookup hne hhead
  unfold readPiece
  split
  · exact absurd rfl hne
  · exact absurd rfl hhead
  · simp only [hlookup]

theorem readPiece_hex (w : UInt32) : readPiece kind ("0x" ++ Numeral.hex w.toNat).toList = .ok w := by
  have hplus : '+' ∉ Numeral.digits 16 w.toNat := by
    intro h
    have hhex := Numeral.forall_mem_digits (P := fun c => Numeral.isHex c = true) (by omega) (by decide) _ _ h
    exact absurd hhex (by decide)
  have hvalue : hexBits? (Numeral.digits 16 w.toNat) = some w := by
    unfold hexBits?
    split
    · rename_i heq
      exact absurd (heq ▸ List.mem_cons_self) hplus
    · simp [Numeral.ofDigits_digits, w.toNat_lt]
  simp [readPiece, Numeral.hex, hvalue]

/-! ## All pieces -/

/-- A piece that a cut at the bars leaves as it is. -/
def IsPiece (cs : List Char) : Prop := cs ≠ [] ∧ '|' ∉ cs ∧ Text.Trimmed cs

theorem split_bars {front : List Char} {pieces : List (List Char)} (hbar : '|' ∉ front)
    (hfront : ∀ c ∈ front, Text.isBlank c = true) (h : ∀ p ∈ pieces, IsPiece p) (hne : pieces ≠ []) :
    (Text.split '|' (front ++ [' ', '|', ' '].intercalate pieces)).map Text.trim = pieces := by
  induction pieces generalizing front with
  | nil => exact absurd rfl hne
  | cons p pieces ih =>
    obtain ⟨-, hp, htrim⟩ := h p List.mem_cons_self
    cases pieces with
    | nil =>
      have hsame : Text.trim (front ++ p) = p := by simpa using @Text.trim_padded p front [] htrim hfront (by simp)
      rw [List.intercalate_singleton, Text.split_eq_singleton (by simp [hbar, hp]), List.map_singleton, hsame]
    | cons q pieces =>
      have hcut : front ++ (p ++ [' ', '|', ' '] ++ [' ', '|', ' '].intercalate (q :: pieces)) =
          (front ++ (p ++ [' '])) ++ '|' :: ([' '] ++ [' ', '|', ' '].intercalate (q :: pieces)) := by simp
      rw [List.intercalate_cons_cons, hcut, Text.split_append (by simp [hbar, hp]), List.map_cons,
        Text.trim_padded htrim hfront (by simp; decide),
        ih (by simp) (by simp; decide) (fun r hr => h r (List.mem_cons_of_mem _ hr)) (by simp)]

theorem trim_join_ne_nil {sep : List Char} {pieces : List (List Char)} (h : ∀ p ∈ pieces, IsPiece p)
    (hne : pieces ≠ []) : Text.trim (sep.intercalate pieces) ≠ [] := by
  cases pieces with
  | nil => exact absurd rfl hne
  | cons p pieces =>
    obtain ⟨hp, -, htrim⟩ := h p List.mem_cons_self
    obtain ⟨c, cs, rfl⟩ := List.exists_cons_of_ne_nil hp
    have hmem : c ∈ sep.intercalate ((c :: cs) :: pieces) := by
      cases pieces <;> simp [List.intercalate_cons_cons]
    exact List.ne_nil_of_mem (Text.mem_trim (htrim.1 c rfl) hmem)

/-- The piece of the bits without a name. -/
def numbers (f : Flags kind) : List String := if f.unnamed == 0 then [] else ["0x" ++ Numeral.hex f.unnamed.toNat]

def numberBits (f : Flags kind) : List UInt32 := if f.unnamed == 0 then [] else [f.unnamed]

theorem isPiece_hex (w : UInt32) : IsPiece ("0x" ++ Numeral.hex w.toNat).toList := by
  have hsplit : ("0x" ++ Numeral.hex w.toNat).toList = ['0', 'x'] ++ Numeral.digits 16 w.toNat := by
    simp [Numeral.hex]
  have hdigits : ∀ c ∈ Numeral.digits 16 w.toNat, c ≠ '|' ∧ Text.isBlank c = false :=
    Numeral.forall_mem_digits (by omega) (by decide) w.toNat
  have hmark : ∀ c ∈ ['0', 'x'], c ≠ '|' ∧ Text.isBlank c = false :=
    List.forall_mem_cons.mpr ⟨by decide, List.forall_mem_singleton.mpr (by decide)⟩
  have hall : ∀ c ∈ ['0', 'x'] ++ Numeral.digits 16 w.toNat, c ≠ '|' ∧ Text.isBlank c = false :=
    fun c hc => (List.mem_append.mp hc).elim (hmark c) (hdigits c)
  rw [hsplit]
  exact ⟨by simp, fun hbar => (hall _ hbar).1 rfl, Text.trimmed_of_plain fun c hc => (hall c hc).2⟩

theorem isPiece_of_mem_pieces {f : Flags kind} {piece : String} (h : piece ∈ f.pieces) : IsPiece piece.toList := by
  rcases List.mem_append.mp h with h | h
  · have hname := isName_of_mem_names h
    exact ⟨hname.ne_nil, hname.bar, hname.trimmed⟩
  · split at h
    · exact absurd h (by simp)
    · rw [List.mem_singleton.mp h]
      exact isPiece_hex f.unnamed

theorem mapM_pieces (f : Flags kind) :
    (f.pieces.map String.toList).mapM (readPiece kind) = .ok (f.names.map (bitsOf kind) ++ f.numberBits) := by
  have hnames : ∀ names : List String, (∀ n ∈ names, IsName kind n) →
      (names.map String.toList).mapM (readPiece kind) = .ok (names.map (bitsOf kind)) := by
    intro names h
    induction names with
    | nil => rfl
    | cons n names ih =>
      rw [List.map_cons, List.mapM_cons, readPiece_name (h n List.mem_cons_self),
        ih fun m hm => h m (List.mem_cons_of_mem _ hm)]
      rfl
  have hnumbers : (f.numbers.map String.toList).mapM (readPiece kind) = .ok f.numberBits := by
    unfold numbers numberBits
    split
    · rfl
    · rw [List.map_cons, List.mapM_cons, readPiece_hex]
      rfl
  change ((f.names ++ f.numbers).map String.toList).mapM _ = _
  rw [List.map_append, List.mapM_append, hnames _ fun n hn => isName_of_mem_names hn, hnumbers]
  rfl

theorem union_pieces (f : Flags kind) : (f.names.map (bitsOf kind) ++ f.numberBits).foldl (· ||| ·) 0 = f.bits := by
  refine eq_of_hasBit fun i => ?_
  have hcover := @nameBits_covers kind f.bits f.bits kind.names (fun p hp => (isName_of_mem hp).2) i
  change (_ → Named kind f.names i ∨ hasBit f.unnamed i = true) ∧ (hasBit f.unnamed i = true → _) ∧
    (Named kind f.names i → _) at hcover
  have hnumber : (f.numberBits.any fun b => hasBit b i) = hasBit f.unnamed i := by
    unfold numberBits
    split <;> simp_all [hasBit_zero]
  have hnames : ((f.names.map (bitsOf kind)).any fun b => hasBit b i) = true ↔ Named kind f.names i := by
    simp [Named]
  rw [hasBit_union, hasBit_zero, Bool.false_or, List.any_append, hnumber, Bool.eq_iff_iff, Bool.or_eq_true, hnames]
  exact ⟨fun hor => hor.elim hcover.2.2 hcover.2.1, hcover.1⟩

theorem read_text (f : Flags kind) : read kind f.text = .ok f := by
  have hjoin : f.text.toList = [] ++ [' ', '|', ' '].intercalate (f.pieces.map String.toList) := by
    rw [text, String.toList_intercalate]
    rfl
  have hpieces : ∀ p ∈ f.pieces.map String.toList, IsPiece p := by
    intro p hp
    obtain ⟨piece, hpiece, rfl⟩ := List.mem_map.mp hp
    exact isPiece_of_mem_pieces hpiece
  have hbits := union_pieces f
  unfold read
  by_cases hnone : f.pieces = []
  · have hread := mapM_pieces f
    rw [hnone] at hread
    have hempty : ([] : List UInt32) = f.names.map (bitsOf kind) ++ f.numberBits := by
      simpa [pure, Except.pure] using hread
    rw [← hempty] at hbits
    rw [if_pos (by rw [hjoin, hnone]; rfl)]
    exact congrArg (fun w => Except.ok (Flags.mk w)) hbits
  · have hfull : f.pieces.map String.toList ≠ [] := by simpa using hnone
    rw [if_neg (by rw [hjoin, List.nil_append, List.isEmpty_iff]; exact trim_join_ne_nil hpieces hfull)]
    have hsplit := @split_bars [] _ (by simp) (by simp) hpieces hfull
    rw [← hjoin] at hsplit
    have hread : (Text.split '|' f.text.toList).mapM (fun piece => readPiece kind (Text.trim piece)) =
        .ok (f.names.map (bitsOf kind) ++ f.numberBits) := by
      rw [← mapM_pieces, ← hsplit, List.mapM_map]
      rfl
    rw [hread]
    exact congrArg (fun w => Except.ok (Flags.mk w)) hbits

end DirectoryPull.Flags
