import DirectoryPull.Form.Reply
import DirectoryPull.Proofs.Form.Values
import DirectoryPull.Proofs.Json.Confined

/-!
# Replies that are read back from JSON

A chain of objects nests as deep as it is long, so the text of a reply is read back exactly as far as a reader
goes. What a reader accepts in whatever form can be written and read again.
-/

namespace DirectoryPull

open Json Codec Fields

/-! ## Objects -/

theorem ObjectName.codec_confinedAt (n : Nat) : ObjectName.codec.ConfinedAt n :=
  record_confinedAt (fun _ => rfl) fun m _ =>
    .cons (.required ((Guid.codec_flat 0).confinedAt m)) <| .cons (.required ((string_flat 0).confinedAt m)) .nil

theorem Cursor.codec_confinedAt (n : Nat) : Cursor.codec.ConfinedAt n :=
  record_confinedAt (fun _ => rfl) fun m _ =>
    .cons (.required ((u64_flat 0).confinedAt m)) <| .cons (.required ((u64_flat 0).confinedAt m)) <|
    .cons (.required ((u64_flat 0).confinedAt m)) .nil

theorem ReplicaAttribute.codec_confinedAt (n : Nat) : ReplicaAttribute.codec.ConfinedAt n :=
  record_confinedAt (fun _ => rfl) fun m _ =>
    .cons (.required ((AttributeId.codec_flat 0).confinedAt m)) <|
    .cons (.required (list_confinedAt fun _ _ => list_confinedAt fun m _ => (u8_flat 0).confinedAt m)) .nil

theorem ReplicaObject.codec_confinedAt (n : Nat) : ReplicaObject.codec.ConfinedAt n :=
  record_confinedAt (fun _ => rfl) fun m _ =>
    .cons (.required (ObjectName.codec_confinedAt m)) <| .cons (.required ((u32_flat 0).confinedAt m)) <|
    .cons (.required (list_confinedAt fun m _ => ReplicaAttribute.codec_confinedAt m)) .nil

/-! ## Chains -/

/-- Links as far as a bound. -/
def linksWithin (bound : Nat) : Codec Links := ⟨fun l => encodeChain l.chain, decodeLinks bound⟩

theorem linksWithin_succ (bound : Nat) :
    linksWithin (bound + 1) = .record "ReplicatedObjectItem"
      (nodeFields <| .field (chainField "next" (linksWithin bound)) .done)
      (fun l : Links => (l.head.object, l.head.isRoot, l.head.parent, l.next, ()))
      (fun (replica, isRoot, parent, next, _) => ⟨⟨replica, isRoot, parent⟩, next⟩) := by
  refine congrArg (Codec.mk · _) (funext fun l => ?_)
  obtain ⟨node, next⟩ := l
  cases next <;> rfl

theorem linksWithin_neverNull (bound : Nat) : (linksWithin bound).NeverNull := fun _ => nofun

theorem chainCodec_exactAt {links : Codec Links} {n : Nat} (h : links.ExactAt n) (hnull : links.NeverNull) :
    (chainCodec links).ExactAt n :=
  convert_exactAt (option_exactAt h hnull) fun ns => by cases ns <;> rfl

theorem chainCodec_confinedAt {links : Codec Links} {n : Nat} (h : links.ConfinedAt n) :
    (chainCodec links).ConfinedAt n :=
  convert_confinedAt (option_confinedAt h) fun l => by cases l <;> rfl

theorem linksWithin_exactAt {bound n : Nat} (h : n < bound) : (linksWithin bound).ExactAt n := by
  induction bound generalizing n with
  | zero => exact absurd h (Nat.not_lt_zero n)
  | succ bound ih =>
    rw [linksWithin_succ]
    have hnames : ["object", "is_nc_prefix", "parent_object_guid", "next"].Nodup := by decide
    refine record_exactAt hnames (fun _ => rfl) fun m hm => ?_
    -- A link takes one level of the budget and one of the bound, so the bound stays ahead.
    have hnext : (linksWithin bound).ExactAt m := ih (by omega)
    exact .cons (.written ((ReplicaObject.codec_flat 0).exact m)) <| .cons (.written ((bool_flat 0).exact m)) <|
      .cons (.written (option_exactAt ((Guid.codec_flat 0).exact m) fun _ => nofun)) <|
      .cons (.written (chainCodec_exactAt hnext (linksWithin_neverNull bound))) .nil

theorem linksWithin_confinedAt (bound n : Nat) : (linksWithin bound).ConfinedAt n := by
  induction bound generalizing n with
  | zero => exact fun _ _ => nofun
  | succ bound ih =>
    rw [linksWithin_succ]
    refine record_confinedAt (fun _ => rfl) fun m _ => ?_
    exact .cons (.required (ReplicaObject.codec_confinedAt m)) <| .cons (.required ((bool_flat 0).confinedAt m)) <|
      .cons (.optional (option_confinedAt ((Guid.codec_flat 0).confinedAt m)) rfl) <|
      .cons (.optional (chainCodec_confinedAt (ih m)) rfl) .nil

theorem Links.codec_exact : Links.codec.Exact := fun n => linksWithin_exactAt (Nat.lt_succ_self n)

theorem Links.codec_confinedAt (n : Nat) : Links.codec.ConfinedAt n := linksWithin_confinedAt (n + 1) n

/-! ## How deep chains nest -/

theorem ReplicaObject.two_le_depth (o : ReplicaObject) : 2 ≤ (ReplicaObject.codec.encode o).depth := by
  change 2 ≤ 1 + max (1 + _) _
  omega

/-- Each link takes a level, and the object of the last one two more. -/
theorem length_le_depth (ns : List ObjectNode) (h : ns ≠ []) : ns.length + 2 ≤ (encodeChain ns).depth := by
  induction ns with
  | nil => exact absurd rfl h
  | cons n ns ih =>
    have hobject : (ReplicaObject.codec.encode n.object).depth < (encodeChain (n :: ns)).depth :=
      depth_lt_object (List.mem_append_left _ (.head _))
    have hnext : (encodeChain ns).depth < (encodeChain (n :: ns)).depth :=
      depth_lt_object (List.mem_append_right _ (.head _))
    have htwo := n.object.two_le_depth
    rw [List.length_cons]
    cases ns with
    | nil =>
      rw [List.length_nil]
      omega
    | cons m ns =>
      have hrest := ih (by simp)
      omega

/-! ## Replies -/

theorem Chunk.codec_exact : Chunk.codec.Exact := fun n =>
  record_exactAt (by decide) (fun _ => rfl) fun m _ =>
    .cons (.written ((Guid.codec_flat 0).exact m)) <|
    .cons (.written ((Guid.codec_flat 0).exact m)) <|
    .cons (.written ((ObjectName.codec_flat 0).exact m)) <|
    .cons (.written ((Cursor.codec_flat 0).exact m)) <|
    .cons (.written ((Cursor.codec_flat 0).exact m)) <|
    .cons (.written ((u32_flat 0).exact m)) <|
    .cons (.written (chainCodec_exactAt (Links.codec_exact m) fun _ => nofun)) <|
    .cons (.written ((bool_flat 0).exact m)) .nil

theorem Chunk.codec_confinedAt (n : Nat) : Chunk.codec.ConfinedAt n :=
  record_confinedAt (fun _ => rfl) fun m _ =>
    .cons (.required ((Guid.codec_flat 0).confinedAt m)) <|
    .cons (.required ((Guid.codec_flat 0).confinedAt m)) <|
    .cons (.required (ObjectName.codec_confinedAt m)) <|
    .cons (.required (Cursor.codec_confinedAt m)) <|
    .cons (.required (Cursor.codec_confinedAt m)) <|
    .cons (.required ((u32_flat 0).confinedAt m)) <|
    .cons (.optional (chainCodec_confinedAt (Links.codec_confinedAt m)) rfl) <|
    .cons (.required ((bool_flat 0).confinedAt m)) .nil

theorem PullReply.codec_exact : PullReply.codec.Exact := fun n =>
  record_exactAt (by decide) (fun _ => rfl) fun m _ =>
    .cons (.written ((u32_flat 0).exact m)) <| .cons (.written (Chunk.codec_exact m)) .nil

theorem PullReply.codec_confinedAt (n : Nat) : PullReply.codec.ConfinedAt n :=
  record_confinedAt (fun _ => rfl) fun m _ =>
    .cons (.required ((u32_flat 0).confinedAt m)) <| .cons (.required (Chunk.codec_confinedAt m)) .nil

theorem chainCodec_encode (ns : List ObjectNode) : (chainCodec Links.codec).encode ns = encodeChain ns := by
  cases ns <;> rfl

theorem PullReply.length_le_nesting {r : PullReply} (h : r.chunk.chain ≠ []) :
    r.chunk.chain.length + 4 ≤ nesting (PullReply.codec.write r) := by
  have hchain := length_le_depth r.chunk.chain h
  have hchunk : ((chainCodec Links.codec).encode r.chunk.chain).depth < (Chunk.codec.encode r.chunk).depth :=
    depth_lt_object (.tail _ <| .tail _ <| .tail _ <| .tail _ <| .tail _ <| .tail _ <| .head _)
  have hreply : (Chunk.codec.encode r.chunk).depth < (PullReply.codec.encode r).depth :=
    depth_lt_object (.tail _ (.head _))
  rw [chainCodec_encode] at hchunk
  rw [write, nesting_text]
  omega

/-- The text of a reply is read back exactly if it nests no deeper than a reader goes, which no chain of 124 objects
does; and what is read, from whatever form of text, can be written and read again. -/
theorem replies_read_back :
    (∀ r : PullReply, PullReply.codec.read (PullReply.codec.write r) =
      if nesting (PullReply.codec.write r) ≤ 127 then .ok r else .error .malformed) ∧
    (∀ r : PullReply, 124 ≤ r.chunk.chain.length →
      PullReply.codec.read (PullReply.codec.write r) = .error .malformed) ∧
    (∀ (text : String) (r : PullReply), PullReply.codec.read text = .ok r →
      PullReply.codec.read (PullReply.codec.write r) = .ok r) := by
  have hexact := fun r => Codec.read_write (PullReply.codec_exact maxDepth) r
  refine ⟨hexact, fun r hlength => ?_, fun text r hread => ?_⟩
  · have hnesting := PullReply.length_le_nesting (r := r) (by rintro h; simp [h] at hlength)
    exact (hexact r).trans (if_neg (by change ¬ _ ≤ 127; omega))
  · obtain ⟨a, ha, hwhole⟩ := bind_ok_iff.mp hread
    obtain rfl := Except.ok.inj (of_whole_ok hwhole)
    have hdepth := PullReply.codec_confinedAt maxDepth _ _ ha
    rw [← nesting_text] at hdepth
    exact (hexact a).trans (if_pos hdepth)

/-- A reply with so many objects that have no attributes. -/
def plainReply (count : Nat) : PullReply :=
  ⟨6, .ofObjects (.ofDn "dc=x") .zero .zero (List.replicate count ⟨.ofDn "cn=o,dc=x", 0, []⟩) false⟩

theorem replies_read_back_to_limit :
    PullReply.codec.read (PullReply.codec.write (plainReply 123)) = .ok (plainReply 123) ∧
    124 ≤ (plainReply 124).chunk.chain.length ∧
    PullReply.codec.read (PullReply.codec.write (plainReply 124)) = .error .malformed := by
  have hnesting : nesting (PullReply.codec.write (plainReply 123)) ≤ 127 := by
    rw [write, nesting_text]
    decide +kernel
  have hlength : 124 ≤ (plainReply 124).chunk.chain.length := by decide +kernel
  have hread := (replies_read_back.1 (plainReply 123)).trans (if_pos hnesting)
  exact ⟨replies_read_back.2.2 _ _ hread, hlength, replies_read_back.2.1 _ hlength⟩

end DirectoryPull
