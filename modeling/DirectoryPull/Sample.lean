import DirectoryPull.Schema.Catalog
import DirectoryPull.Server.Directory

/-! # Sample data: a small directory, its schema and a replica of it -/

namespace DirectoryPull.Sample

def domainContext : String := "DC=example,DC=com"

def configContext : String := "CN=Configuration,DC=example,DC=com"

def schemaContext : String := "CN=Schema,CN=Configuration,DC=example,DC=com"

def localHistory : Guid :=
  ⟨[0x6b, 0x2f, 0x10, 0x9a, 0x3c, 0x4e, 0x41, 0x7d, 0x9e, 0x01, 0x55, 0x27, 0xa0, 0x3b, 0xc4, 0x19], rfl⟩

def localServer : Guid :=
  ⟨[0x0c, 0x81, 0x7e, 0x52, 0xd3, 0x90, 0x4b, 0x6a, 0x8f, 0x44, 0x12, 0xe9, 0x7b, 0x20, 0x5d, 0xa6], rfl⟩

def definitions : List AttributeDefinition := [
  ⟨"objectClass", 0, some 18, some 1⟩,
  ⟨"cn", 3, some 18, none⟩,
  ⟨"description", 13, some 16, none⟩,
  ⟨"member", 31, some 18, none⟩,
  ⟨"name", 589825, some 134217746, some 5⟩,
  ⟨"objectGUID", 589826, some 134217746, some 9⟩,
  ⟨"replPropertyMetaData", 589827, some 25, none⟩,
  ⟨"whenChanged", 131075, some 19, none⟩,
  ⟨"unicodePwd", 589914, some 16, some 640⟩,
  ⟨"dBCSPwd", 589879, some 16, some 640⟩,
  ⟨"supplementalCredentials", 589949, some 16, some 640⟩,
  ⟨"tokenGroups", 592798, some 134217748, none⟩,
  ⟨"canonicalName", 1572870, some (-2147483636), none⟩,
  ⟨"sAMAccountName", 590045, some 16, some 13⟩,
  ⟨"userAccountControl", 589832, some 16, some 25⟩,
  ⟨"displayName", 131085, none, some 5⟩]

def schema : SchemaCatalog := ⟨schemaContext, definitions, false⟩

/-- The ids that a read-only replica asks for. -/
def wantedIds : List AttributeId :=
  [0, 3, 13, 31, 131085, 589825, 589826, 589832, 590045].map AttributeId.mk

/-- A server with so many objects in the domain and a few in the other contexts. -/
def server (objects : Nat) : DirectoryServer :=
  ((DirectoryServer.full.populate domainContext objects).populate configContext 3).populate schemaContext 2

def serverName : String := "dc1.example.com"

end DirectoryPull.Sample
