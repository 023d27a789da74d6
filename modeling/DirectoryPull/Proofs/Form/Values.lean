import DirectoryPull.Form.Reply
import DirectoryPull.Form.Schema
import DirectoryPull.Proofs.Flags.Text
import DirectoryPull.Proofs.Guid.Text
import DirectoryPull.Proofs.Json.Records
import DirectoryPull.Proofs.Value.AttributeSet

/-!
# Values that are read back from JSON

Requests, results and records of the schema nest a few levels at most, so whatever they hold, their text is read
back as the value that was written.
-/

namespace DirectoryPull

open Json Codec Fields

/-! ## Values without fields -/

theorem Guid.codec_flat (k : Nat) : Guid.codec.Flat k :=
  spelled_flat k fun g => by rw [Guid.read_text]; rfl

theorem Flags.codec_flat (kind : FlagKind) (k : Nat) : (Flags.codec kind).Flat k :=
  spelled_flat k fun f => by rw [Flags.read_text]; rfl

theorem AttributeId.codec_flat (k : Nat) : AttributeId.codec.Flat k := convert_flat (u32_flat k) fun _ => rfl

theorem ExtendedOp.codec_flat (k : Nat) : ExtendedOp.codec.Flat k :=
  refine_flat (u32_flat k) fun op => by cases op <;> rfl

/-! ## Cursors and sets -/

theorem Cursor.codec_flat (k : Nat) : Cursor.codec.Flat (k + 1) :=
  record_flat (by decide) (fun _ => rfl) <|
    .cons (.written (u64_flat k)) <| .cons (.written (u64_flat k)) <| .cons (.written (u64_flat k)) .nil

theorem AttributeSet.rawCodec_flat (k : Nat) : AttributeSet.rawCodec.Flat (k + 2) :=
  record_flat (by decide) (fun _ => rfl) <|
    .cons (.written (u32_flat (k + 1))) <| .cons (.written (list_flat (AttributeId.codec_flat k))) .nil

theorem AttributeSet.codec_flat (k : Nat) : AttributeSet.codec.Flat (k + 2) := by
  refine refine_flat (AttributeSet.rawCodec_flat k) fun s => ?_
  change ((AttributeSet.ofSorted s.ids).mapError _ : Except String AttributeSet) = .ok s
  rw [AttributeSet.ofSorted_ids]
  rfl

/-! ## Requests -/

theorem ObjectName.codec_flat (k : Nat) : ObjectName.codec.Flat (k + 1) :=
  record_flat (by decide) (fun _ => rfl) <|
    .cons (.written (Guid.codec_flat k)) <| .cons (.written (string_flat k)) .nil

theorem SeenChanges.codec_flat (k : Nat) : SeenChanges.codec.Flat (k + 1) :=
  record_flat (by decide) (fun _ => rfl) <| .cons (.written (Guid.codec_flat k)) <| .cons (.written (u64_flat k)) .nil

theorem seenCodec_flat (k : Nat) : seenCodec.Flat (k + 3) :=
  record_flat (by decide) (fun _ => rfl) <| .cons (.written (list_flat (SeenChanges.codec_flat k))) .nil

theorem OidPrefix.codec_flat (k : Nat) : OidPrefix.codec.Flat (k + 2) :=
  record_flat (by decide) (fun _ => rfl) <|
    .cons (.written (u32_flat (k + 1))) <| .cons (.written (list_flat (u8_flat k))) .nil

theorem PullTerms.fields_flat {β : Type} {rest : Fields β} {k : Nat} (h : rest.All (·.Flat (k + 3))) :
    (PullTerms.fields rest).All (·.Flat (k + 3)) :=
  .cons (.written (Guid.codec_flat _)) <|
  .cons (.written (Guid.codec_flat _)) <|
  .cons (.written (ObjectName.codec_flat (k + 2))) <|
  .cons (.written (Cursor.codec_flat (k + 2))) <|
  .cons (.written (option_flat (seenCodec_flat k) record_neverNull)) <|
  .cons (.written (Flags.codec_flat .replica _)) <|
  .cons (.written (u32_flat _)) <|
  .cons (.written (u32_flat _)) <|
  .cons (.written (ExtendedOp.codec_flat _)) <|
  .cons (.written (u64_flat _)) h

theorem PullTerms.codec_flat (k : Nat) : PullTerms.codec.Flat (k + 4) :=
  record_flat (by decide) (fun _ => rfl) (PullTerms.fields_flat .nil)

theorem AttributeSet.codec_neverNull : AttributeSet.codec.NeverNull := fun _ => nofun

theorem fullRequestCodec_flat (k : Nat) : fullRequestCodec.Flat (k + 4) :=
  record_flat (by decide) (fun _ => rfl) <| PullTerms.fields_flat <|
    .cons (.written (option_flat (AttributeSet.codec_flat (k + 1)) AttributeSet.codec_neverNull)) <|
    .cons (.written (option_flat (AttributeSet.codec_flat (k + 1)) AttributeSet.codec_neverNull)) <|
    .cons (.written (list_flat (OidPrefix.codec_flat k))) .nil

theorem PullRequest.codec_flat (k : Nat) : PullRequest.codec.Flat (k + 5) := by
  refine tagged_flat fun r => ?_
  cases r with
  | reduced t =>
    have hterms := PullTerms.codec_flat k
    refine ⟨_, rfl, fun n => ?_, hterms.shallow t⟩
    change PullRequest.reduced <$> PullTerms.codec.decode n (PullTerms.codec.encode t).draft = within n _ (.reduced t)
    rw [hterms.exact n t, within_map]
  | full t f =>
    have hfull := fullRequestCodec_flat k
    refine ⟨_, rfl, fun n => ?_, hfull.shallow (t, f)⟩
    change (fun p => PullRequest.full p.1 p.2) <$> fullRequestCodec.decode n (fullRequestCodec.encode (t, f)).draft =
      within n _ (.full t f)
    rw [hfull.exact n (t, f), within_map]

theorem BindInfo.codec_flat (k : Nat) : BindInfo.codec.Flat (k + 1) :=
  record_flat (by decide) (fun _ => rfl) <|
    .cons (.written (Flags.codec_flat .extension k)) <| .cons (.written (Guid.codec_flat k)) <|
    .cons (.written (u32_flat k)) <| .cons (.written (u32_flat k)) .nil

theorem SyncRequest.codec_flat (k : Nat) : SyncRequest.codec.Flat (k + 2) :=
  record_flat (by decide) (fun _ => rfl) <|
    .cons (.written (ObjectName.codec_flat k)) <| .cons (.written (Guid.codec_flat _)) <|
    .cons (.written (option_flat (string_flat _) fun _ => nofun)) <| .cons (.written (Flags.codec_flat .replica _)) .nil

theorem RemovalRequest.codec_flat (k : Nat) : RemovalRequest.codec.Flat (k + 1) :=
  record_flat (by decide) (fun _ => rfl) <|
    .cons (.written (string_flat k)) <| .cons (.written (string_flat k)) <| .cons (.written (bool_flat k)) .nil

theorem RemovalResult.codec_flat (k : Nat) : RemovalResult.codec.Flat (k + 1) :=
  record_flat (by decide) (fun _ => rfl) <| .cons (.written (bool_flat k)) .nil

/-! ## Objects -/

theorem ReplicaAttribute.codec_flat (k : Nat) : ReplicaAttribute.codec.Flat (k + 3) :=
  record_flat (by decide) (fun _ => rfl) <|
    .cons (.written (AttributeId.codec_flat _)) <| .cons (.written (list_flat (list_flat (u8_flat k)))) .nil

theorem ReplicaObject.codec_flat (k : Nat) : ReplicaObject.codec.Flat (k + 5) :=
  record_flat (by decide) (fun _ => rfl) <|
    .cons (.written (ObjectName.codec_flat (k + 3))) <| .cons (.written (u32_flat _)) <|
    .cons (.written (list_flat (ReplicaAttribute.codec_flat k))) .nil

/-! ## Schema records -/

namespace AttributeMap

theorem place_above {name : String} {change : List String → List String} {es : List (String × List String)}
    (h : ∀ e ∈ es, e.1 < name) : place name change es = es ++ [(name, change [])] := by
  induction es with
  | nil => rfl
  | cons e es ih =>
    have hlt := h e List.mem_cons_self
    have hne : name ≠ e.1 := fun heq => String.lt_irrefl _ (heq ▸ hlt)
    have hle : ¬ name < e.1 := fun hgt => String.lt_irrefl _ (String.lt_trans hlt hgt)
    rw [place, if_neg hne, if_neg hle, ih fun e he => h e (List.mem_cons_of_mem _ he)]
    rfl

theorem entries_foldl_set {m : AttributeMap} {es : List (String × List String)}
    (h : ((m.entries ++ es).map Prod.fst).Pairwise (· < ·)) :
    (es.foldl (fun m (name, values) => m.set name values) m).entries = m.entries ++ es := by
  induction es generalizing m with
  | nil => exact (List.append_nil _).symm
  | cons e es ih =>
    obtain ⟨name, values⟩ := e
    have hset : (m.set name values).entries = m.entries ++ [(name, values)] := by
      refine place_above fun e he => ?_
      rw [List.map_append, List.pairwise_append] at h
      exact h.2.2 e.1 (List.mem_map_of_mem he) name List.mem_cons_self
    rw [List.foldl_cons, ih (by rw [hset]; simpa using h), hset]
    simp

theorem ofList_entries (m : AttributeMap) : ofList m.entries = m := by
  have hentries : (ofList m.entries).entries = m.entries := entries_foldl_set (m := empty) m.ascending
  cases hm : ofList m.entries
  cases m
  simp_all

/-- What is written for the entries of a map. -/
def members (es : List (String × List String)) : List (String × Json) :=
  es.map fun (name, values) => (name, Codec.string.list.encode values)

theorem mapM_decodeEntry (n : Nat) (es : List (String × List String)) :
    (memberDrafts (members es)).mapM (decodeEntry n) = within n (membersDepth (members es)) es := by
  induction es with
  | nil => exact (within_zero n []).symm
  | cons e es ih =>
    obtain ⟨name, values⟩ := e
    have hentry : decodeEntry n (some name, (Codec.string.list.encode values).draft) =
        within n (Codec.string.list.encode values).depth (name, values) := by
      change (name, ·) <$> Codec.string.list.decode n (Codec.string.list.encode values).draft = _
      rw [(list_flat (string_flat 0)).exact n values, within_map]
    rw [members, List.map_cons, ← members, memberDrafts, membersDepth, List.mapM_cons, hentry, ih]
    change (within n _ (name, values) >>= fun e => (e :: ·) <$> within n _ es) = _
    simp only [within_map]
    exact within_bind n _ _ (name, values) (· :: es)

theorem membersDepth_members (k : Nat) (es : List (String × List String)) : membersDepth (members es) ≤ k + 1 := by
  induction es with
  | nil => exact Nat.zero_le _
  | cons e es ih => exact Nat.max_le.mpr ⟨(list_flat (string_flat k)).shallow e.2, ih⟩

theorem codec_flat (k : Nat) : AttributeMap.codec.Flat (k + 2) := by
  refine ⟨fun n m => ?_, fun m => ?_⟩
  · change (inside n >>= fun n => (memberDrafts (members m.entries)).mapM (decodeEntry n) >>= fun es =>
      pure (ofList es)) = within n (1 + membersDepth (members m.entries)) m
    simp only [mapM_decodeEntry, bind_pure_comp, within_map, ofList_entries]
    exact inside_within n _ m
  · have hentries := membersDepth_members k m.entries
    change 1 + membersDepth (members m.entries) ≤ k + 2
    omega

end AttributeMap

theorem SearchEntry.codec_flat (k : Nat) : SearchEntry.codec.Flat (k + 3) :=
  record_flat (by decide) (fun _ => rfl) <|
    .cons (.written (string_flat _)) <| .cons (.written (AttributeMap.codec_flat k)) .nil

theorem AttributeDefinition.codec_flat (k : Nat) : AttributeDefinition.codec.Flat (k + 1) :=
  record_flat (by decide) (fun _ => rfl) <|
    .cons (.written (string_flat k)) <| .cons (.written (u32_flat k)) <|
    .cons (.omitted (i64_flat k) fun _ => nofun) <| .cons (.omitted (i64_flat k) fun _ => nofun) .nil

/-! ## Reading back -/

/-- Whatever a flat value holds, its text is read back as that value. -/
theorem values_read_back :
    (∀ i, BindInfo.codec.read (BindInfo.codec.write i) = .ok i) ∧
    (∀ r, PullRequest.codec.read (PullRequest.codec.write r) = .ok r) ∧
    (∀ c, Cursor.codec.read (Cursor.codec.write c) = .ok c) ∧
    (∀ s, AttributeSet.codec.read (AttributeSet.codec.write s) = .ok s) ∧
    (∀ r, SyncRequest.codec.read (SyncRequest.codec.write r) = .ok r) ∧
    (∀ r, RemovalRequest.codec.read (RemovalRequest.codec.write r) = .ok r) ∧
    (∀ r, RemovalResult.codec.read (RemovalResult.codec.write r) = .ok r) ∧
    (∀ o, ReplicaObject.codec.read (ReplicaObject.codec.write o) = .ok o) ∧
    (∀ e, SearchEntry.codec.read (SearchEntry.codec.write e) = .ok e) ∧
    (∀ d, AttributeDefinition.codec.read (AttributeDefinition.codec.write d) = .ok d) :=
  ⟨(BindInfo.codec_flat 0).read_write (by decide),
    (PullRequest.codec_flat 0).read_write (by decide),
    (Cursor.codec_flat 0).read_write (by decide),
    (AttributeSet.codec_flat 0).read_write (by decide),
    (SyncRequest.codec_flat 0).read_write (by decide),
    (RemovalRequest.codec_flat 0).read_write (by decide),
    (RemovalResult.codec_flat 0).read_write (by decide),
    (ReplicaObject.codec_flat 0).read_write (by decide),
    (SearchEntry.codec_flat 0).read_write (by decide),
    (AttributeDefinition.codec_flat 0).read_write (by decide)⟩

end DirectoryPull
