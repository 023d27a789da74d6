import DirectoryPull.Client.Binding
import DirectoryPull.Message.Request
import DirectoryPull.Text.Quoted

/-! # Settings of a client -/

namespace DirectoryPull

structure Config where
  protocol : String
  logLevel : UInt32
  maxObjects : UInt32
  maxBytes : UInt32
deriving DecidableEq

namespace Config

def defaultProtocol : String := "ncacn_ip_tcp"

/-- From this log level on the transport prints its packets. -/
def printLogLevel : UInt32 := 5

def default : Config := ⟨defaultProtocol, 0, defaultMaxObjects, defaultMaxBytes⟩

/-- Connections are always encrypted. -/
def bindingFor (c : Config) (server : String) : Binding :=
  ⟨c.protocol, server, if printLogLevel ≤ c.logLevel then ["seal", "print"] else ["seal"]⟩

end Config

/-- The account a connection is made with. -/
structure Credentials where
  username : String
  domain : Option String
  password : String
deriving DecidableEq

namespace Credentials

/-- The form in messages never shows the password. -/
def shown (c : Credentials) : String :=
  "Credentials \x7b username: " ++ Text.quoted c.username ++ ", domain: " ++ Text.quotedOption c.domain ++
    ", password: " ++ Text.quoted "<redacted>" ++ " \x7d"

def wipe (_ : Credentials) : Credentials := ⟨"", none, ""⟩

end Credentials

end DirectoryPull
