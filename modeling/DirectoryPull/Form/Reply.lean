import DirectoryPull.Form.Request
import DirectoryPull.Message.Reply

/-!
# Replies as JSON

Each link of an object chain holds the next one, so a long chain nests deep.
-/

namespace DirectoryPull

open Json

def ReplicaAttribute.codec : Codec ReplicaAttribute :=
  .record "ReplicaAttribute"
    (.required "attid" AttributeId.codec <| .required "values" Codec.u8.list.list .done)
    (fun a => (a.id, a.values, ()))
    (fun (id, values, _) => ⟨id, values⟩)

def ReplicaObject.codec : Codec ReplicaObject :=
  .record "ReplicaObject"
    (.required "identifier" ObjectName.codec <| .required "flags" .u32 <|
      .required "attributes" ReplicaAttribute.codec.list .done)
    (fun o => (o.name, o.flags, o.attributes, ()))
    (fun (name, flags, attributes, _) => ⟨name, flags, attributes⟩)

/-! ## Chains -/

/-- A chain with at least one link. -/
structure Links where
  head : ObjectNode
  next : List ObjectNode
deriving DecidableEq

def Links.chain (l : Links) : List ObjectNode := l.head :: l.next

def Links.ofChain? : List ObjectNode → Option Links
  | [] => none
  | n :: ns => some ⟨n, ns⟩

/-- The fields of a link in front of the one that holds the next link. -/
def nodeFields {β : Type} (rest : Fields β) :=
  Fields.required "object" ReplicaObject.codec <|
  .required "is_nc_prefix" .bool <|
  .optional "parent_object_guid" Guid.codec rest

/-- A chain inside a link: null ends it. -/
def chainCodec (links : Codec Links) : Codec (List ObjectNode) :=
  links.option.convert Links.ofChain? fun l => (l.map Links.chain).getD []

/-- A field that holds the rest of a chain. -/
def chainField (name : String) (links : Codec Links) : FieldCodec (List ObjectNode) :=
  ⟨name, chainCodec links, .optional [], fun _ => false⟩

/-- The links of a chain from the first on; without links it ends. -/
def encodeChain : List ObjectNode → Json
  | [] => .null
  | n :: ns => .object ((nodeFields .done).members (n.object, n.isRoot, n.parent, ()) ++ [("next", encodeChain ns)])

/-- Reads links that nest no deeper than a bound. -/
def decodeLinks : Nat → Nat → Draft → Except Problem Links
  | 0, _, _ => .error .malformed
  | bound + 1, depth, d =>
    (Codec.record "ReplicatedObjectItem"
      (nodeFields <| .field (chainField "next" ⟨fun l => encodeChain l.chain, decodeLinks bound⟩) .done)
      (fun l : Links => (l.head.object, l.head.isRoot, l.head.parent, l.next, ()))
      (fun (replica, isRoot, parent, next, _) => ⟨⟨replica, isRoot, parent⟩, next⟩)).decode depth d

/-- A link takes one level of nesting, so the levels that are left bound the links. -/
def Links.codec : Codec Links := ⟨fun l => encodeChain l.chain, fun depth => decodeLinks (depth + 1) depth⟩

/-! ## Chunks -/

def Chunk.codec : Codec Chunk :=
  .record "ChangeChunk"
    (.required "source_dsa_guid" Guid.codec <|
      .required "source_dsa_invocation_id" Guid.codec <|
      .required "naming_context" ObjectName.codec <|
      .required "old_highwatermark" Cursor.codec <|
      .required "new_highwatermark" Cursor.codec <|
      .required "object_count" .u32 <|
      .field (chainField "first_object" Links.codec) <|
      .required "more_data" .bool .done)
    (fun c => (c.sourceServer, c.sourceHistory, c.context, c.oldCursor, c.newCursor, c.count, c.chain, c.more, ()))
    (fun (sourceServer, sourceHistory, context, oldCursor, newCursor, count, chain, more, _) =>
      ⟨sourceServer, sourceHistory, context, oldCursor, newCursor, count, chain, more⟩)

def PullReply.codec : Codec PullReply :=
  .record "GetNcChangesReply" (.required "level" .u32 <| .required "ctr" Chunk.codec .done)
    (fun r => (r.level, r.chunk, ()))
    (fun (level, chunk, _) => ⟨level, chunk⟩)

end DirectoryPull
