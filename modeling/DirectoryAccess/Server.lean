import DirectoryAccess.Settings
/-!
# Servers

How to reach a directory server and as whom.  `check` names the first thing wrong; `redacted` is the same server fit to
be shown, its password hidden.
-/
namespace DirectoryAccess

structure Server where
  host : String
  port : UInt16 := 389
  /-- Encrypted from the first octet. -/
  ssl : Bool := false
  /-- Encrypted once connected. -/
  startTls : Bool := false
  base : Name
  bindName : String
  password : Option String := none
  timeouts : Timeouts := {}
  encryption : Encryption := {}
deriving DecidableEq

namespace Server

/-- The same server by way of encryption from the first octet, at the port for that. -/
def withSsl (s : Server) : Server :=
  { s with ssl := true, port := 636, encryption := { s.encryption with enabled := true } }

def url (s : Server) : String :=
  (if s.ssl then "ldaps" else "ldap") ++ "://" ++ s.host ++ ":" ++ toString s.port.toNat

/-- What stands for a password that is not shown. -/
def hidden : String := "***REDACTED***"

def redacted (s : Server) : Server := { s with password := s.password.map (fun _ => hidden) }

def check (s : Server) : Except SettingsFault Unit :=
  if Text.isVoid s.host then .error .noHost
  else if Text.isVoid s.bindName then .error .noBindName
  else
    match Name.read s.bindName with
    | .error fault => .error (.bindName s.bindName fault)
    | .ok _ => if s.ssl && s.startTls then .error .twoProtections else s.timeouts.check

end Server
end DirectoryAccess
