import DirectoryAccess.Fault
import DirectoryAccess.Search
/-!
# Settings

How long to wait, whether to encrypt, and where a repository keeps its entries.  Each kind of settings has a `check`
that names the first thing wrong with it.
-/
namespace DirectoryAccess

/-- How long to wait, in seconds, for a connection and for an answer. -/
structure Timeouts where
  connect : UInt64 := 30
  read : UInt64 := 60
deriving DecidableEq

def Timeouts.check (t : Timeouts) : Except SettingsFault Unit :=
  if t.connect = 0 then .error .zeroConnectTimeout
  else if t.read = 0 then .error .zeroReadTimeout
  else .ok ()

/-- Encryption of the connection. -/
structure Encryption where
  enabled : Bool := false
  verifyCertificate : Bool := true
deriving DecidableEq

/-- Where a repository looks for its entries.  The root as base stands for the base of the entity type. -/
structure Placement where
  base : Name := Name.root
  scope : Scope := .subtree
deriving DecidableEq

/-- A repository cannot live in a single entry. -/
def Placement.check (p : Placement) : Except SettingsFault Unit :=
  if p.scope = .base then .error .baseScope else .ok ()

end DirectoryAccess
