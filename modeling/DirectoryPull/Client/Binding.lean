import DirectoryPull.Client.Error
import DirectoryPull.Text.Blank

/-!
# Binding strings

Where to connect: `protocol:host[option,option]`, the brackets only where there are options.
-/

namespace DirectoryPull

structure Binding where
  protocol : String
  host : String
  options : List String
deriving DecidableEq

namespace Binding

def has (b : Binding) (option : String) : Bool := b.options.contains option

/-- The connection must be encrypted. -/
def isSealed (b : Binding) : Bool := b.has "seal"

def text (b : Binding) : String :=
  b.protocol ++ ":" ++ b.host ++
    if b.options.isEmpty then "" else "[" ++ ",".intercalate b.options ++ "]"

/-! ## Reading -/

/-- The options before the closing bracket, without blanks around them; empty ones are dropped. -/
def options? (cs : List Char) : Option (List String) :=
  if cs.getLast? = some ']' then
    some (((Text.split ',' cs.dropLast).map Text.trim).filter (!·.isEmpty) |>.map String.ofList)
  else none

/-- The host and the options behind the first bracket. -/
def hostAndOptions? (cs : List Char) : Option (List Char × List String) :=
  match Text.cut? '[' cs with
  | some (host, rest) => (options? rest).map (host, ·)
  | none => some (cs, [])

def read? (s : String) : Option Binding := do
  let (protocol, rest) ← Text.cut? ':' s.toList
  let (host, options) ← hostAndOptions? rest
  if protocol.isEmpty || host.isEmpty then none
  else some ⟨String.ofList protocol, String.ofList host, options⟩

def parse (s : String) : Except ReplicationError Binding :=
  match read? s with
  | some b => .ok b
  | none => .error (.invalidArgument (.malformedBinding s))

end Binding

end DirectoryPull
