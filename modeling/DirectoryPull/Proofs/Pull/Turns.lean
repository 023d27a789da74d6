import DirectoryPull.Proofs.Client.Watch

/-!
# Turn by turn

A pull goes in turns. A turn is a call to the server and, unless the reply breaks a rule, one to the store; the next
turn asks again from the new cursor.
-/

namespace DirectoryPull.Session

open DirectoryPull.Action

/-! ## One turn -/

section

variable (s : Session) (options : PullOptions) (r : PullRequest)

/-- The exchanges of one turn and what becomes of it. -/
inductive Turn : List Exchange → Except ReplicationError Chunk → Prop
  | refused (e : TransportError) :
    Turn [.pull s.connection.handle r (.error e)] (.error (.connection s.connection.target e))
  | broken {reply : PullReply} {breach : Breach} (hbreach : reply.chunk.breach? r.terms.cursor = some breach) :
    Turn [.pull s.connection.handle r (.ok reply)] (.error (.contract breach))
  | rejected {reply : PullReply} (hbreach : reply.chunk.breach? r.terms.cursor = none) (e : ApplyError) :
    Turn [.pull s.connection.handle r (.ok reply), .store ⟨reply.level, reply.chunk, options.schema, r⟩ (.error e)]
      (.error (.apply e))
  | stored {reply : PullReply} (hbreach : reply.chunk.breach? r.terms.cursor = none) :
    Turn [.pull s.connection.handle r (.ok reply), .store ⟨reply.level, reply.chunk, options.schema, r⟩ (.ok ())]
      (.ok reply.chunk)

/-- The line on a chunk that the store has taken. -/
def appliedLine? (dn : String) : Exchange → Option Line
  | .store d (.ok ()) =>
    some ⟨.debug, "applied chunk", [("naming_context", .text dn), ("level", .count d.level.toNat),
      ("objects", .count d.chunk.count.toNat), ("more_data", .truth d.chunk.more),
      ("highwatermark", .text d.chunk.newCursor.text)]⟩
  | _ => none

theorem traces_pullChunk {W : Type} (peers : Peers W) :
    Traces (pullChunk peers s options r) (pullChunk peers.watched s options r) fun es lines result =>
      Turn s options r es result ∧ lines = es.filterMap (appliedLine? r.terms.context.dn) := by
  unfold pullChunk
  apply traces_ask_bind
  case herror => exact fun e => ⟨.refused e, rfl⟩
  intro reply
  cases hbreach : reply.chunk.breach? r.terms.cursor with
  | some breach => exact traces_throw ⟨.broken hbreach, rfl⟩
  | none =>
    apply traces_ask_bind
    case herror => exact fun e => ⟨.rejected hbreach e, rfl⟩
    exact fun _ => traces_note_bind _ (traces_pure ⟨.stored hbreach, rfl⟩)

end

/-! ## All turns -/

section

variable (s : Session) (options : PullOptions)

/-- Turns that follow on each other, so many at most. -/
inductive Turns : Nat → PullRequest → PullStats → List Exchange → Except ReplicationError (Option PullStats) → Prop
  | spent {r : PullRequest} {stats : PullStats} : Turns 0 r stats [] (.ok none)
  | fails {calls : Nat} {r : PullRequest} {stats : PullStats} {es : List Exchange} {e : ReplicationError}
      (hturn : Turn s options r es (.error e)) : Turns (calls + 1) r stats es (.error e)
  | last {calls : Nat} {r : PullRequest} {stats : PullStats} {es : List Exchange} {chunk : Chunk}
      (hturn : Turn s options r es (.ok chunk)) (hmore : chunk.more = false) :
    Turns (calls + 1) r stats es (.ok (some (stats.add chunk)))
  | more {calls : Nat} {r : PullRequest} {stats : PullStats} {es es' : List Exchange} {chunk : Chunk}
      {result : Except ReplicationError (Option PullStats)} (hturn : Turn s options r es (.ok chunk))
      (hmore : chunk.more = true) (hrest : Turns calls (r.withCursor chunk.newCursor) (stats.add chunk) es' result) :
    Turns (calls + 1) r stats (es ++ es') result

theorem traces_pullAll {W : Type} (peers : Peers W) (calls : Nat) (r : PullRequest) (stats : PullStats) :
    Traces (pullAll peers s options calls r stats) (pullAll peers.watched s options calls r stats)
      fun es lines result =>
      Turns s options calls r stats es result ∧ lines = es.filterMap (appliedLine? r.terms.context.dn) := by
  induction calls generalizing r stats with
  | zero => exact traces_pure ⟨.spent, rfl⟩
  | succ calls ih =>
    unfold pullAll
    apply (traces_pullChunk s options r peers).bind
    case herror =>
      rintro e es lines ⟨hturn, rfl⟩
      exact ⟨.fails hturn, rfl⟩
    rintro chunk es lines ⟨hturn, rfl⟩
    split
    · next hmore =>
      apply (ih (r.withCursor chunk.newCursor) (stats.add chunk)).mono
      rintro es' lines' result ⟨hrest, rfl⟩
      -- The next request is from another cursor, but for the same context.
      rw [PullRequest.terms_withCursor, List.filterMap_append]
      exact ⟨.more hturn hmore hrest, rfl⟩
    · next hmore =>
      apply traces_pure
      rw [List.append_nil, List.append_nil]
      exact ⟨.last hturn (Bool.eq_false_iff.mpr hmore), rfl⟩

theorem shows_pullAll {W : Type} (peers : Peers W) (calls : Nat) (r : PullRequest) (stats : PullStats) :
    Shows (pullAll peers s options calls r stats) (pullAll peers.watched s options calls r stats)
      (Turns s options calls r stats) := by
  apply (traces_pullAll s options peers calls r stats).shows.mono
  rintro es result ⟨lines, hturns, -⟩
  exact hturns

end

theorem showsFrom_replicate {W : Type} (peers : Peers W) (s : Session) (calls : Nat) (dn : String)
    (source destination : Guid) (options : PullOptions) {w : W}
    {made : List Exchange → Except ReplicationError (Option AttributeSet) → W → Prop}
    {final : List Exchange → Except ReplicationError (Option PullStats) → W → Prop}
    (hmade : ShowsFrom w (wanted peers.schema options) (wanted peers.schema.watched options) made)
    (hturns : ∀ set es w' es' result w'', made es (.ok set) w' →
      Turns s options calls (firstRequest s dn source destination options set)
        (.start (firstRequest s dn source destination options set).level) es' result →
      final (es ++ es') result w'')
    (herror : ∀ e es w', made es (.error e) w' → final es (.error e) w') :
    ShowsFrom w (replicate peers s calls dn source destination options)
      (replicate peers.watched s calls dn source destination options) final := by
  unfold replicate
  refine hmade.bind (fun set es w' hset => showsFrom_note_bind _ ?_) herror
  refine (shows_iff.mp (shows_pullAll s options peers calls _ _) w').bind (fun stats? es' w'' h => ?_)
    fun e es' w'' h => ?_
  · have hfinal := hturns set es w' es' _ w'' hset h
    rw [← List.append_nil es'] at hfinal
    cases stats? with
    | none => exact showsFrom_pure hfinal
    | some stats => exact showsFrom_note_bind _ (showsFrom_pure hfinal)
  · exact hturns set es w' es' _ w'' hset h

end DirectoryPull.Session
