import DirectoryPull.Text.Numeral
import DirectoryPull.Value.Cursor
import DirectoryPull.Guid.Basic

/-!
# What can go wrong in a session

The failures of the three collaborators, and what the client makes of them.
-/

namespace DirectoryPull

inductive TransportError
  | network (text : String)
  | accessDenied (text : String)
  | mismatch (text : String)
  /-- The server answered with a fault. -/
  | fault (status : UInt32) (text : String)
  | closed
deriving DecidableEq

def TransportError.message : TransportError → String
  | network text => "network failure: " ++ text
  | accessDenied text => "access denied: " ++ text
  | mismatch text => "protocol mismatch: " ++ text
  | fault status text => s!"remote fault {Numeral.word status}: {text}"
  | closed => "connection closed"

inductive SchemaError
  | search (text : String)
  | unknownAttribute (name : String)
  | malformed (dn reason : String)
deriving DecidableEq

def SchemaError.message : SchemaError → String
  | search text => "schema search failed: " ++ text
  | unknownAttribute name => "unknown attribute: " ++ name
  | malformed dn reason => s!"malformed schema entry {dn}: {reason}"

inductive ApplyError
  | rejected (text : String)
  | storage (text : String)
deriving DecidableEq

def ApplyError.message : ApplyError → String
  | rejected text => "chunk rejected: " ++ text
  | storage text => "storage failure: " ++ text

/-- How a reply breaks the rules of the protocol. -/
inductive Breach
  | missingObjects (count : UInt32)
  | cursorMovedBack (sent received : Cursor)
  | other (text : String)
deriving DecidableEq

def Breach.message : Breach → String
  | missingObjects count => s!"DsGetNCChanges: NULL first_object with object_count={count}"
  | cursorMovedBack sent received =>
    s!"DsGetNCChanges: highwatermark moved backwards from {sent.text} to {received.text}"
  | other text => text

/-- What a caller got wrong, seen before any call is made. -/
inductive Misuse
  | noIdentity
  | malformedBinding (text : String)
  | other (text : String)
deriving DecidableEq

def Misuse.message : Misuse → String
  | noIdentity => s!"must not use {Guid.nil.text} as invocation_id"
  | malformedBinding text => "malformed binding string: " ++ text
  | other text => text

inductive ReplicationError
  | connection (target : String) (cause : TransportError)
  | contract (breach : Breach)
  | invalidArgument (misuse : Misuse)
  /-- A maintenance call failed. -/
  | operation (name : String) (cause : TransportError)
  | schema (cause : SchemaError)
  | apply (cause : ApplyError)
deriving DecidableEq

namespace ReplicationError

def message : ReplicationError → String
  | connection target cause => s!"DRS connection to {target} failed: {cause.message}"
  | contract breach => "protocol contract violated: " ++ breach.message
  | invalidArgument misuse => "invalid argument: " ++ misuse.message
  | operation name cause => s!"{name} failed: {cause.message}"
  | schema cause => "schema error: " ++ cause.message
  | apply cause => "apply error: " ++ cause.message

/-- A caller may try again with a new session. -/
def isRetryable : ReplicationError → Bool
  | connection _ _ | operation _ _ => true
  | _ => false

/-- The text of the collaborator's failure underneath. -/
def source : ReplicationError → Option String
  | connection _ cause | operation _ cause => some cause.message
  | schema cause => some cause.message
  | apply cause => some cause.message
  | contract _ | invalidArgument _ => none

end ReplicationError

end DirectoryPull
