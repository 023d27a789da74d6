import DirectoryPull.Server.Basic

/-!
# A server that answers by script

Pulls are answered from a list, one entry each, whatever they ask for. Every call is recorded.
-/

namespace DirectoryPull

inductive ReceivedCall
  | bind (offered : Extensions)
  | pull (request : PullRequest)
  | sync (request : SyncRequest)
  | remove (request : RemovalRequest)
deriving DecidableEq

structure ScriptedServer where
  extensions : Extensions
  /-- Fails the next bind. -/
  bindError : Option TransportError
  script : List (Except TransportError PullReply)
  /-- Fails all maintenance calls. -/
  maintenanceError : Option TransportError
  /-- Oldest call first. -/
  calls : List ReceivedCall

namespace ScriptedServer

def handle : Handle := ⟨0, .fill 0x4d⟩

def ofExtensions (e : Extensions) : ScriptedServer := ⟨e, none, [], none, []⟩

def default : ScriptedServer := ofExtensions .offered

def record (s : ScriptedServer) (c : ReceivedCall) : ScriptedServer := { s with calls := s.calls ++ [c] }

def pulls (s : ScriptedServer) : List PullRequest :=
  s.calls.filterMap fun
    | .pull r => some r
    | _ => none

/-! ## Setting the script -/

def failBind (s : ScriptedServer) (e : TransportError) : ScriptedServer := { s with bindError := some e }

def failMaintenance (s : ScriptedServer) (e : TransportError) : ScriptedServer :=
  { s with maintenanceError := some e }

def push (s : ScriptedServer) (item : Except TransportError PullReply) : ScriptedServer :=
  { s with script := s.script ++ [item] }

/-! ## Answering -/

/-- The whole mask is claimed, asked for or not. -/
def bind (info : BindInfo) : Call ScriptedServer TransportError (Handle × BindInfo) := fun s =>
  let s := s.record (.bind info.extensions)
  match s.bindError with
  | some e => .error e { s with bindError := none }
  | none => .ok (handle, .ofExtensions s.extensions) s

def exhausted : TransportError := .fault 0 "no scripted pull reply"

def pull (r : PullRequest) : Call ScriptedServer TransportError PullReply := fun s =>
  let s := s.record (.pull r)
  match s.script with
  | [] => .error exhausted s
  | .ok reply :: rest => .ok reply { s with script := rest }
  | .error e :: rest => .error e { s with script := rest }

def maintain {α : Type} (c : ReceivedCall) (answer : α) : Call ScriptedServer TransportError α := fun s =>
  let s := s.record c
  match s.maintenanceError with
  | some e => .error e s
  | none => .ok answer s

instance : Server ScriptedServer where
  access := {
    bind := fun _ info => bind info
    pull := fun _ r => pull r
    sync := fun _ r => maintain (.sync r) ()
    remove := fun _ r => maintain (.remove r) ⟨false⟩ }
  handle := handle
  pullBound s := s.script.length + 1

end ScriptedServer

end DirectoryPull
