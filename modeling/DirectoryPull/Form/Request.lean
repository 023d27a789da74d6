import DirectoryPull.Form.Value
import DirectoryPull.Json.Tagged
import DirectoryPull.Message.Bind
import DirectoryPull.Message.Maintenance

/-! # Requests as JSON -/

namespace DirectoryPull

open Json

def ObjectName.codec : Codec ObjectName :=
  .record "ObjectIdentifier" (.required "guid" Guid.codec <| .required "dn" .string .done)
    (fun n => (n.guid, n.dn, ()))
    (fun (guid, dn, _) => ⟨guid, dn⟩)

def SeenChanges.codec : Codec SeenChanges :=
  .record "UpToDateCursor"
    (.required "source_dsa_invocation_id" Guid.codec <| .required "highest_usn" .u64 .done)
    (fun s => (s.source, s.highest, ()))
    (fun (source, highest, _) => ⟨source, highest⟩)

def seenCodec : Codec (List SeenChanges) :=
  .record "UpToDateVector" (.required "cursors" SeenChanges.codec.list .done)
    (fun cs => (cs, ()))
    (fun (cs, _) => cs)

def OidPrefix.codec : Codec OidPrefix :=
  .record "PrefixMapping" (.required "id_prefix" .u32 <| .required "oid" Codec.u8.list .done)
    (fun p => (p.idHigh, p.oid, ()))
    (fun (idHigh, oid, _) => ⟨idHigh, oid⟩)

/-! ## Pulls -/

/-- The fields of both layouts in front of others. -/
def PullTerms.fields {β : Type} (rest : Fields β) :=
  Fields.required "destination_dsa_guid" Guid.codec <|
  .required "source_dsa_invocation_id" Guid.codec <|
  .required "naming_context" ObjectName.codec <|
  .required "highwatermark" Cursor.codec <|
  .optional "uptodateness_vector" seenCodec <|
  .required "replica_flags" (Flags.codec .replica) <|
  .required "max_object_count" .u32 <|
  .required "max_ndr_size" .u32 <|
  .required "extended_op" ExtendedOp.codec <|
  .required "fsmo_info" .u64 rest

def PullTerms.codec : Codec PullTerms :=
  .record "GetNcChangesRequest5" (PullTerms.fields .done)
    (fun t => (t.destination, t.source, t.context, t.cursor, t.seen, t.flags, t.maxObjects, t.maxBytes,
      t.operation, t.operationInfo, ()))
    (fun (destination, source, context, cursor, seen, flags, maxObjects, maxBytes, operation, info, _) =>
      ⟨destination, source, context, cursor, seen, flags, maxObjects, maxBytes, operation, info⟩)

def fullRequestCodec : Codec (PullTerms × FilterTerms) :=
  .record "GetNcChangesRequest8"
    (PullTerms.fields <|
      .optional "partial_attribute_set" AttributeSet.codec <|
      .optional "partial_attribute_set_ex" AttributeSet.codec <|
      .required "mapping_ctr" OidPrefix.codec.list .done)
    (fun (t, f) => (t.destination, t.source, t.context, t.cursor, t.seen, t.flags, t.maxObjects, t.maxBytes,
      t.operation, t.operationInfo, f.wanted, f.wantedToo, f.prefixes, ()))
    (fun (destination, source, context, cursor, seen, flags, maxObjects, maxBytes, operation, info, wanted,
        wantedToo, prefixes, _) =>
      (⟨destination, source, context, cursor, seen, flags, maxObjects, maxBytes, operation, info⟩,
        ⟨wanted, wantedToo, prefixes⟩))

def PullRequest.codec : Codec PullRequest :=
  .tagged
    [⟨"V5", fun depth d => .reduced <$> PullTerms.codec.decode depth d⟩,
      ⟨"V8", fun depth d => (fun (t, f) => .full t f) <$> fullRequestCodec.decode depth d⟩]
    fun
      | .reduced t => ("V5", PullTerms.codec.encode t)
      | .full t f => ("V8", fullRequestCodec.encode (t, f))

/-! ## Binds and maintenance -/

def BindInfo.codec : Codec BindInfo :=
  .record "BindInfo"
    (.required "supported_extensions" (Flags.codec .extension) <| .required "site_guid" Guid.codec <|
      .required "pid" .u32 <| .required "repl_epoch" .u32 .done)
    (fun i => (i.extensions, i.site, i.process, i.epoch, ()))
    (fun (extensions, site, process, epoch, _) => ⟨extensions, site, process, epoch⟩)

def SyncRequest.codec : Codec SyncRequest :=
  .record "ReplicaSyncRequest"
    (.required "naming_context" ObjectName.codec <| .required "source_dsa_guid" Guid.codec <|
      .optional "source_dsa_dns" .string <| .required "options" (Flags.codec .replica) .done)
    (fun r => (r.context, r.source, r.sourceDns, r.options, ()))
    (fun (context, source, sourceDns, options, _) => ⟨context, source, sourceDns, options⟩)

def RemovalRequest.codec : Codec RemovalRequest :=
  .record "RemoveDsServerRequest"
    (.required "server_dn" .string <| .required "domain_dn" .string <| .required "commit" .bool .done)
    (fun r => (r.server, r.domain, r.commit, ()))
    (fun (server, domain, commit, _) => ⟨server, domain, commit⟩)

def RemovalResult.codec : Codec RemovalResult :=
  .record "RemoveDsServerResult" (.required "last_dc_in_domain" .bool .done)
    (fun r => (r.wasLast, ()))
    (fun (wasLast, _) => ⟨wasLast⟩)

end DirectoryPull
