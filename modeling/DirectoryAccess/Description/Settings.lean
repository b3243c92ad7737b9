import DirectoryAccess.Description
import DirectoryAccess.Session
/-!
# Descriptions of settings

Names, places and servers, and the sessions with these.  A password is never shown, only whether there is one.
-/
namespace DirectoryAccess

open Description

def Rdn.describe (r : Rdn) : Description := whole "Rdn" [("attribute", .quoted r.type), ("value", .quoted r.value)]

def Name.describe (n : Name) : Description := whole "Dn" [("rdns", .row (n.rdns.map Rdn.describe))]

def Scope.describe : Scope → Description
  | .base => .word "Base"
  | .oneLevel => .word "OneLevel"
  | .subtree => .word "Subtree"

def Placement.describe (p : Placement) : Description :=
  whole "RepositoryConfig" [("base", p.base.describe), ("scope", p.scope.describe)]

def Timeouts.describe (t : Timeouts) : Description :=
  whole "ConnectionSettings"
    [("connection_timeout_secs", .nat t.connect.toNat), ("read_timeout_secs", .nat t.read.toNat)]

def Encryption.describe (e : Encryption) : Description :=
  whole "TlsConfig" [("enabled", boolean e.enabled), ("verify_certificate", boolean e.verifyCertificate)]

def Server.describe (s : Server) : Description :=
  whole "LdapConfig"
    [("host", .quoted s.host), ("port", .nat s.port.toNat), ("use_ssl", boolean s.ssl),
      ("use_starttls", boolean s.startTls), ("base_dn", .quoted s.base.text), ("bind_dn", .quoted s.bindName),
      ("bind_password", ofOption .quoted s.redacted.password), ("connection", s.timeouts.describe),
      ("tls", s.encryption.describe)]

/-- The client of sessions with a server. -/
def Session.describe (s : Server) : Description :=
  whole "LdapDirectoryClient" [("display_name", .quoted (Session.label s)), ("config", s.describe)]

end DirectoryAccess
