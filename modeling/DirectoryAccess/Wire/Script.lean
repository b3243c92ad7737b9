import DirectoryAccess.Session
/-!
# Scripted servers

A server that gives prepared responses one after the other, and once they are used up grants every request without
entries.  It remembers what it was asked.  Instead of a response it can hang up, and then nothing reaches it until there
is another connection; and it can be out of reach altogether.
-/
namespace DirectoryAccess

inductive Reply where
  | respond (response : Response)
  | hangUp
deriving DecidableEq

structure Script where
  reachable : Bool := true
  /-- Whether there is a connection that holds. -/
  up : Bool := false
  replies : List Reply := []
  seen : List Request := []
deriving DecidableEq

namespace Script

/-- The request to encrypt the connection. -/
def startTls : Request := .extended "1.3.6.1.4.1.1466.20037"

/-- Remembers the request and gives the next reply, if the connection holds. -/
def answer (request : Request) (s : Script) : Option Response × Script :=
  if s.up then
    let s := { s with seen := s.seen ++ [request] }
    match s.replies with
    | [] => (some {}, s)
    | .respond response :: replies => (some response, { s with replies })
    | .hangUp :: replies => (none, { s with replies, up := false })
  else (none, s)

/-- A connection, on which encryption is asked for first if that is wanted. -/
def connect (server : Server) (s : Script) : Bool × Script :=
  let s := { s with up := s.reachable }
  if s.up && server.startTls then
    let (response, s) := answer startTls s
    (response.any Response.done, s)
  else (s.up, s)

def transport : Transport Script where
  connect := connect
  exchange _ := answer
  notify request s := if s.up then { s with seen := s.seen ++ [request] } else s

end Script
end DirectoryAccess
