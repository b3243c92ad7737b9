import DirectoryAccess.Form.Search
import DirectoryAccess.Server
/-!
# The stored form of settings

Settings are objects in which everything but the essentials may be left out.  They are written in full, except for a
password that is not set.
-/
namespace DirectoryAccess

namespace Timeouts

def toDocument (t : Timeouts) : Document :=
  .object [("connection_timeout_secs", .nat t.connect.toNat), ("read_timeout_secs", .nat t.read.toNat)]

def ofDocument? (d : Document) : Option Timeouts := do
  let _ ← d.fields?
  let connect ← d.fieldOr "connection_timeout_secs" 30 (Document.natBelow? UInt64.size)
  let read ← d.fieldOr "read_timeout_secs" 60 (Document.natBelow? UInt64.size)
  return { connect := UInt64.ofNat connect, read := UInt64.ofNat read }

end Timeouts

namespace Encryption

def toDocument (e : Encryption) : Document :=
  .object [("enabled", .boolean e.enabled), ("verify_certificate", .boolean e.verifyCertificate)]

def ofDocument? (d : Document) : Option Encryption := do
  let _ ← d.fields?
  let enabled ← d.fieldOr "enabled" false Document.boolean?
  let verifyCertificate ← d.fieldOr "verify_certificate" true Document.boolean?
  return { enabled, verifyCertificate }

end Encryption

namespace Placement

def toDocument (p : Placement) : Document := .object [("base", p.base.toDocument), ("scope", p.scope.toDocument)]

def ofDocument? (d : Document) : Option Placement := do
  let _ ← d.fields?
  let base ← d.fieldOr "base" Name.root Name.ofDocument?
  let scope ← d.fieldOr "scope" .subtree Scope.ofDocument?
  return { base, scope }

end Placement

namespace Server

def toDocument (s : Server) : Document :=
  .object
    ([("host", .text s.host), ("port", .nat s.port.toNat), ("use_ssl", .boolean s.ssl),
      ("use_starttls", .boolean s.startTls), ("base_dn", s.base.toDocument), ("bind_dn", .text s.bindName)]
      ++ Document.present "bind_password" .text s.password
      ++ [("connection", s.timeouts.toDocument), ("tls", s.encryption.toDocument)])

def ofDocument? (d : Document) : Option Server := do
  let host ← d.required "host" Document.text?
  let port ← d.fieldOr "port" 389 (Document.natBelow? UInt16.size)
  let ssl ← d.fieldOr "use_ssl" false Document.boolean?
  let startTls ← d.fieldOr "use_starttls" false Document.boolean?
  let base ← d.required "base_dn" Name.ofDocument?
  let bindName ← d.required "bind_dn" Document.text?
  let password ← d.optional "bind_password" Document.text?
  let timeouts ← d.fieldOr "connection" {} Timeouts.ofDocument?
  let encryption ← d.fieldOr "tls" {} Encryption.ofDocument?
  return { host, port := UInt16.ofNat port, ssl, startTls, base, bindName, password, timeouts, encryption }

end Server
end DirectoryAccess
