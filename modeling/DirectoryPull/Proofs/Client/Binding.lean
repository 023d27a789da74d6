import DirectoryPull.Client.Config
import DirectoryPull.Proofs.Text.Cuts

/-!
# What a binding string keeps

The text of a binding has no escapes, so it keeps exactly the bindings whose parts are free of the marks that
end them. A server name is not checked for those marks.
-/

namespace DirectoryPull.Binding

/-! ## Parts that the text keeps apart -/

/-- An option that a list between commas keeps as it is. -/
def IsOption (o : String) : Prop := o ≠ "" ∧ ',' ∉ o.toList ∧ Text.Trimmed o.toList

structure WellFormed (b : Binding) : Prop where
  protocol_ne : b.protocol ≠ ""
  protocol_plain : ':' ∉ b.protocol.toList
  host_ne : b.host ≠ ""
  host_plain : '[' ∉ b.host.toList
  options : ∀ o ∈ b.options, IsOption o

/-! ## Options -/

/-- The options of a text between brackets. -/
def listed (cs : List Char) : List String :=
  ((Text.split ',' cs).map Text.trim).filter (!·.isEmpty) |>.map String.ofList

theorem options_closed (cs : List Char) : options? (cs ++ [']']) = some (listed cs) := by
  rw [options?, if_pos (by simp), List.dropLast_concat, listed]

theorem listed_append (a b : List Char) : listed (a ++ ',' :: b) = listed a ++ listed b := by
  simp only [listed, Text.split_append_sep, List.map_append, List.filter_append]

theorem isOption_of_mem_listed {cs : List Char} {o : String} (h : o ∈ listed cs) : IsOption o := by
  simp only [listed, List.mem_map, List.mem_filter] at h
  obtain ⟨_, ⟨⟨p, hp, rfl⟩, hne⟩, rfl⟩ := h
  have hne : Text.trim p ≠ [] := by simpa using hne
  refine ⟨?_, ?_, ?_⟩
  · simpa using hne
  · rw [String.toList_ofList]
    exact mt Text.mem_of_mem_trim (Text.not_mem_of_mem_split hp)
  · rw [String.toList_ofList]
    exact Text.trimmed_trim p

theorem listed_join {os : List String} (h : ∀ o ∈ os, IsOption o) (hne : os ≠ []) :
    listed ([','].intercalate (os.map String.toList)) = os := by
  have hplain : ∀ p ∈ os.map String.toList, ',' ∉ p := by
    intro p hp
    obtain ⟨o, ho, rfl⟩ := List.mem_map.mp hp
    exact (h o ho).2.1
  have htrim : (os.map String.toList).map Text.trim = os.map String.toList := by
    rw [List.map_map]
    exact List.map_congr_left fun o ho => Text.trim_eq_self (h o ho).2.2
  have hfull : (os.map String.toList).filter (!·.isEmpty) = os.map String.toList := by
    rw [List.filter_eq_self]
    intro p hp
    obtain ⟨o, ho, rfl⟩ := List.mem_map.mp hp
    simpa using (h o ho).1
  rw [listed, Text.split_join hplain (by simpa using hne), htrim, hfull, List.map_map]
  simp

/-! ## Reading -/

/-- The options of a text in brackets, or no options and no text. -/
def optionChars (os : List String) : List Char :=
  if os.isEmpty then [] else '[' :: ([','].intercalate (os.map String.toList) ++ [']'])

theorem toList_text (b : Binding) :
    b.text.toList = b.protocol.toList ++ ':' :: (b.host.toList ++ optionChars b.options) := by
  unfold text optionChars
  split <;> simp

theorem parse_eq_ok_iff {s : String} {b : Binding} : parse s = .ok b ↔ read? s = some b := by
  unfold parse
  split <;> simp_all

theorem read_eq_some_iff {s : String} {b : Binding} :
    read? s = some b ↔ ∃ rest, Text.cut? ':' s.toList = some (b.protocol.toList, rest) ∧
      hostAndOptions? rest = some (b.host.toList, b.options) ∧ b.protocol ≠ "" ∧ b.host ≠ "" := by
  simp only [read?, Option.bind_eq_bind, Option.bind_eq_some_iff, Prod.exists, Bool.or_eq_true, List.isEmpty_iff,
    Option.ite_none_left_eq_some, not_or, Option.some.injEq]
  constructor
  · rintro ⟨protocol, rest, hcut, host, options, hhost, ⟨hp, hh⟩, rfl⟩
    exact ⟨rest, by simpa using hcut, by simpa using hhost, by simpa using hp, by simpa using hh⟩
  · rintro ⟨rest, hcut, hhost, hp, hh⟩
    exact ⟨_, rest, hcut, _, _, hhost, ⟨by simpa using hp, by simpa using hh⟩, by simp⟩

theorem hostAndOptions_of_plain {host : List Char} (h : '[' ∉ host) : hostAndOptions? host = some (host, []) := by
  rw [hostAndOptions?, Text.cut_eq_none h]

theorem hostAndOptions_of_bracket {host : List Char} (h : '[' ∉ host) (cs : List Char) :
    hostAndOptions? (host ++ '[' :: (cs ++ [']'])) = some (host, listed cs) := by
  simp only [hostAndOptions?, Text.cut_append h, options_closed, Option.map_some]

theorem of_hostAndOptions {cs host : List Char} {options : List String}
    (h : hostAndOptions? cs = some (host, options)) : '[' ∉ host ∧ ∀ o ∈ options, IsOption o := by
  by_cases hmem : '[' ∈ cs
  · obtain ⟨front, back, rfl, hfront⟩ := List.eq_append_cons_of_mem hmem
    simp only [hostAndOptions?, Text.cut_append hfront, Option.map_eq_some_iff, Prod.mk.injEq] at h
    obtain ⟨os, hos, rfl, rfl⟩ := h
    refine ⟨hfront, fun o ho => ?_⟩
    unfold options? at hos
    split at hos
    · rw [Option.some.injEq] at hos
      exact isOption_of_mem_listed (hos ▸ ho)
    · exact absurd hos (by simp)
  · rw [hostAndOptions_of_plain hmem, Option.some.injEq, Prod.mk.injEq] at h
    obtain ⟨rfl, rfl⟩ := h
    exact ⟨hmem, by simp⟩

/-! ## Round trips -/

theorem wellFormed_of_parse {s : String} {b : Binding} (h : parse s = .ok b) : b.WellFormed := by
  obtain ⟨rest, hcut, hrest, hprotocol, hhost⟩ := read_eq_some_iff.mp (parse_eq_ok_iff.mp h)
  obtain ⟨hplain, hoptions⟩ := of_hostAndOptions hrest
  exact ⟨hprotocol, (Text.of_cut_eq_some hcut).2, hhost, hplain, hoptions⟩

theorem parse_text {b : Binding} (h : b.WellFormed) : parse b.text = .ok b := by
  have hrest : hostAndOptions? (b.host.toList ++ optionChars b.options) = some (b.host.toList, b.options) := by
    by_cases hnone : b.options = []
    · simpa [hnone, optionChars] using hostAndOptions_of_plain h.host_plain
    · rw [optionChars, if_neg (by simpa using hnone), hostAndOptions_of_bracket h.host_plain,
        listed_join h.options hnone]
  rw [parse_eq_ok_iff, read_eq_some_iff, toList_text]
  exact ⟨_, Text.cut_append h.protocol_plain, hrest, h.protocol_ne, h.host_ne⟩

/-- What is read is well formed and read again from its text; a text gives its binding back exactly if the
binding is well formed. -/
theorem parse_exact :
    (∀ s b, parse s = .ok b → b.WellFormed ∧ parse b.text = .ok b) ∧
      ∀ b : Binding, parse b.text = .ok b ↔ b.WellFormed :=
  ⟨fun _ _ h => ⟨wellFormed_of_parse h, parse_text (wellFormed_of_parse h)⟩,
    fun _ => ⟨wellFormed_of_parse, parse_text⟩⟩

/-- Marks in places where they end nothing, blanks around options and empty options. -/
def marked : Binding := ⟨"p[q", "h:]i", ["a]", "b[c"]⟩

theorem parse_exact_marked :
    parse "p[q:h:]i[ a] ,,b[c ]" = .ok marked ∧ marked.WellFormed ∧ parse marked.text = .ok marked := by
  have hparse : parse "p[q:h:]i[ a] ,,b[c ]" = .ok marked := by decide +kernel
  exact ⟨hparse, parse_exact.1 _ _ hparse⟩

/-! ## Connections to a server -/

/-- What stands between the first colon of a server's binding text and its options. -/
def address (c : Config) (server : String) : List Char :=
  match Text.cut? ':' c.protocol.toList with
  | some (_, rest) => rest ++ ':' :: server.toList
  | none => server.toList

/-- The options of a server's binding, as they stand in its text. -/
def askedChars (c : Config) : List Char :=
  "seal".toList ++ if Config.printLogLevel ≤ c.logLevel then ",print".toList else []

theorem optionChars_bindingFor (c : Config) (server : String) :
    optionChars (c.bindingFor server).options = '[' :: (askedChars c ++ [']']) := by
  unfold Config.bindingFor askedChars
  dsimp only
  split <;> decide +kernel

/-- The first colon ends the protocol, also one inside the protocol that was set. -/
theorem cut_bindingFor (c : Config) (server : String) :
    ∃ protocol, Text.cut? ':' (c.bindingFor server).text.toList =
      some (protocol, address c server ++ '[' :: (askedChars c ++ [']'])) := by
  rw [toList_text, optionChars_bindingFor, address]
  change ∃ protocol, Text.cut? ':' (c.protocol.toList ++ _) = _
  by_cases hcolon : ':' ∈ c.protocol.toList
  · obtain ⟨front, back, hsplit, hfront⟩ := List.eq_append_cons_of_mem hcolon
    rw [hsplit, Text.cut_append hfront]
    refine ⟨front, ?_⟩
    rw [List.append_assoc, List.cons_append, Text.cut_append hfront]
    simp [Config.bindingFor]
  · rw [Text.cut_eq_none hcolon]
    exact ⟨_, Text.cut_append hcolon⟩

theorem not_mem_listed_of_bracket {cs : List Char} (h : ',' ∉ cs) (hbracket : '[' ∈ cs) : "seal" ∉ listed cs := by
  intro hmem
  simp only [listed, Text.split_eq_singleton h, List.mem_map, List.mem_filter] at hmem
  obtain ⟨_, ⟨⟨_, hp, rfl⟩, -⟩, hseal⟩ := hmem
  have hin : '[' ∈ Text.trim cs := Text.mem_trim (by decide) hbracket
  rw [← List.mem_singleton.mp hp, ← String.toList_ofList (l := Text.trim _), hseal] at hin
  exact absurd hin (by decide)

theorem mem_listed_swallowed_iff (c : Config) (cs : List Char) :
    "seal" ∈ listed (cs ++ '[' :: askedChars c) ↔ ∃ front last, cs = front ++ ',' :: last ∧ "seal" ∈ listed front := by
  have hlast : ∀ last : List Char, ',' ∉ last → "seal" ∉ listed (last ++ '[' :: askedChars c) := by
    intro last hcomma
    have hseal : "seal" ∉ listed (last ++ '[' :: "seal".toList) :=
      not_mem_listed_of_bracket (by simpa using hcomma) (by simp)
    unfold askedChars
    split
    · have hsplit : last ++ '[' :: ("seal".toList ++ ",print".toList) =
          (last ++ '[' :: "seal".toList) ++ ',' :: "print".toList := by simp
      rw [hsplit, listed_append, List.mem_append, not_or]
      exact ⟨hseal, by decide +kernel⟩
    · simpa using hseal
  constructor
  · intro h
    by_cases hcomma : ',' ∈ cs
    · obtain ⟨back, front, hsplit, hback⟩ := List.eq_append_cons_of_mem (List.mem_reverse.mpr hcomma)
      have hcs : cs = front.reverse ++ ',' :: back.reverse := by simpa using congrArg List.reverse hsplit
      rw [hcs, List.append_assoc, List.cons_append, listed_append, List.mem_append] at h
      exact ⟨_, _, hcs, h.resolve_right (hlast _ (by simpa using hback))⟩
    · exact absurd h (hlast cs hcomma)
  · rintro ⟨front, last, rfl, hseal⟩
    rw [List.append_assoc, List.cons_append, listed_append, List.mem_append]
    exact Or.inl hseal

theorem hostAndOptions_bindingFor {c : Config} {server : String} {b : Binding}
    (h : parse (c.bindingFor server).text = .ok b) :
    ('[' ∉ address c server ∧ b.host.toList = address c server ∧ b.options = listed (askedChars c)) ∨
      ∃ behind, '[' ∉ b.host.toList ∧ address c server = b.host.toList ++ '[' :: behind ∧
        b.options = listed (behind ++ '[' :: askedChars c) := by
  obtain ⟨rest, hcut, hrest, -, -⟩ := read_eq_some_iff.mp (parse_eq_ok_iff.mp h)
  obtain ⟨protocol, hcut'⟩ := cut_bindingFor c server
  rw [hcut', Option.some.injEq, Prod.mk.injEq] at hcut
  rw [← hcut.2] at hrest
  by_cases hbracket : '[' ∈ address c server
  · obtain ⟨host, behind, hsplit, hhost⟩ := List.eq_append_cons_of_mem hbracket
    have hmove : host ++ '[' :: behind ++ '[' :: (askedChars c ++ [']']) =
        host ++ '[' :: ((behind ++ '[' :: askedChars c) ++ [']']) := by simp
    rw [hsplit, hmove, hostAndOptions_of_bracket hhost, Option.some.injEq, Prod.mk.injEq] at hrest
    exact Or.inr ⟨behind, hrest.1 ▸ hhost, hrest.1 ▸ hsplit, hrest.2.symm⟩
  · rw [hostAndOptions_of_bracket hbracket, Option.some.injEq, Prod.mk.injEq] at hrest
    exact Or.inl ⟨hbracket, hrest.1.symm, hrest.2.symm⟩

theorem seal_mem_asked (c : Config) : "seal" ∈ listed (askedChars c) := by
  unfold askedChars
  split <;> decide +kernel

theorem isSealed_iff (b : Binding) : b.isSealed = true ↔ "seal" ∈ b.options := by
  rw [isSealed, has, List.contains_iff_mem]

/-- A bracket in the address becomes the one that starts the options, and swallows the option that asks for
encryption unless the address asks for it in front of a comma. Without marks of their own, a protocol and a
server come back as they are. -/
theorem bindingFor_reads (c : Config) (server : String) (b : Binding) (h : parse (c.bindingFor server).text = .ok b) :
    (':' ∉ c.protocol.toList → '[' ∉ server.toList → b.isSealed = true ∧ b.host = server) ∧
      b.host.toList = (address c server).takeWhile (· ≠ '[') ∧
      (b.isSealed = true ↔ '[' ∉ address c server ∨
        ∃ front last, address c server = b.host.toList ++ '[' :: (front ++ ',' :: last) ∧ "seal" ∈ listed front) := by
  rw [isSealed_iff]
  rcases hostAndOptions_bindingFor h with ⟨hbracket, hhost, hoptions⟩ | ⟨behind, hplain, haddress, hoptions⟩
  · have hseal : "seal" ∈ b.options := hoptions ▸ seal_mem_asked c
    refine ⟨fun hcolon _ => ⟨hseal, ?_⟩, ?_, by simp [hseal, hbracket]⟩
    · rw [address, Text.cut_eq_none hcolon] at hhost
      exact String.toList_injective hhost
    · rw [hhost, eq_comm, List.takeWhile_eq_self_iff]
      exact fun x hx => by simpa using ne_of_mem_of_not_mem hx hbracket
  · have hin : '[' ∈ address c server := by simp [haddress]
    refine ⟨fun hcolon hserver => ?_, ?_, ?_⟩
    · rw [address, Text.cut_eq_none hcolon] at hin
      exact absurd hin hserver
    · rw [haddress, List.takeWhile_append_of_pos fun x hx => by simpa using ne_of_mem_of_not_mem hx hplain]
      simp
    · rw [hoptions, mem_listed_swallowed_iff, haddress]
      simp

/-- A bracket in a server name is read as the start of the options, and no encryption is asked for. -/
theorem bracketed_server_unsealed :
    ¬ ∀ (c : Config) (server : String) (b : Binding), parse (c.bindingFor server).text = .ok b →
      b.isSealed = true ∧ b.host = server := by
  intro h
  have hread : parse (Config.default.bindingFor "dc1[x").text = .ok ⟨"ncacn_ip_tcp", "dc1", ["x[seal"]⟩ := by
    decide +kernel
  exact absurd (h Config.default "dc1[x" _ hread).1 (by decide +kernel)

theorem bindingFor_reads_plain :
    parse (Config.default.bindingFor "dc1]:389").text = .ok ⟨"ncacn_ip_tcp", "dc1]:389", ["seal"]⟩ ∧
      ':' ∉ Config.default.protocol.toList ∧ '[' ∉ "dc1]:389".toList ∧
      (Binding.mk "ncacn_ip_tcp" "dc1]:389" ["seal"]).isSealed = true := by
  have hread : parse (Config.default.bindingFor "dc1]:389").text = .ok ⟨"ncacn_ip_tcp", "dc1]:389", ["seal"]⟩ := by
    decide +kernel
  have hcolon : ':' ∉ Config.default.protocol.toList := by decide +kernel
  have hbracket : '[' ∉ "dc1]:389".toList := by decide +kernel
  exact ⟨hread, hcolon, hbracket, ((bindingFor_reads _ _ _ hread).1 hcolon hbracket).1⟩

end DirectoryPull.Binding
