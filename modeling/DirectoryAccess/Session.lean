import DirectoryAccess.Client
import DirectoryAccess.Server
import DirectoryAccess.Wire.Entries
/-!
# Sessions with a server

A client that keeps one connection to a server.  It connects when the first operation needs it, and binds; only a
connection on which the bind was granted is kept, and it is used for everything from then on, whatever becomes of it.
After `dispose` nothing is sent at all.

What carries requests is a `Transport` with a state of its own.  It says whether a connection comes about, encrypted if
the server is to be reached that way, and whether a request is answered; that a connection is broken is for it to
remember.
-/
namespace DirectoryAccess

structure Transport (τ : Type) where
  /-- Opens a connection as the settings of the server say, encryption included. -/
  connect : Server → τ → Bool × τ
  /-- Sends a request and waits for its response, at most so many seconds if any are given; none when none comes. -/
  exchange : Option UInt64 → Request → τ → Option Response × τ
  /-- Sends a request that has no response. -/
  notify : Request → τ → τ

structure Session where
  /-- A connection is kept, on which a bind was granted. -/
  connected : Bool := false
  disposed : Bool := false
deriving DecidableEq

/-- What a session does, over its own state and that of its transport. -/
abbrev Exchange (τ α : Type) := Action (Session × τ) α

namespace Session

variable {τ α : Type}

/-! ## Connecting -/

def reach (t : Transport τ) (server : Server) : Action τ Bool :=
  Action.ofStep (fun s => (.ok (t.connect server s).1, (t.connect server s).2))

def exchange (t : Transport τ) (seconds : Option UInt64) (request : Request) : Action τ (Option Response) :=
  Action.ofStep (fun s => (.ok (t.exchange seconds request s).1, (t.exchange seconds request s).2))

def bind (t : Transport τ) (server : Server) : Action τ Unit := do
  match ← exchange t none (.bind server.bindName (server.password.getD "")) with
  | none => throw (.connection (.bindLost server.bindName))
  | some response =>
    if response.done then pure ()
    else if response.code = 49 then throw .authentication
    else throw (.connection (.bindRefused response.code response.text))

/-- A connection on which the bind was granted. -/
def connect (t : Transport τ) (server : Server) : Action τ Unit := do
  let up ← reach t server
  if !up then
    throw (.connection (.unreachable server.url))
  bind t server

/-- Makes sure of a connection. -/
def ensureConnected (t : Transport τ) (server : Server) : Exchange τ Unit := do
  let (session, _) ← get
  if session.disposed then
    throw (.invalidSettings .disposed)
  if !session.connected then
    (connect t server).onSecond
    modify (fun s => ({ s.1 with connected := true }, s.2))

/-! ## Requests -/

/-- The response to a request on the connection; `lost` is the fault where there is none. -/
def call (t : Transport τ) (server : Server) (request : Request) (lost : Fault) : Exchange τ Response := do
  ensureConnected t server
  match ← (exchange t (some server.timeouts.read) request).onSecond with
  | some response => return response
  | none => throw lost

/-- What the result code of a response says about the entry `n`. -/
def accept (response : Response) (n : Name) (operation : String) : Except Fault Unit :=
  match response.code.toNat with
  | 0 => .ok ()
  | 32 => .error (.notFound n)
  | 68 => .error (.alreadyExists n)
  | 49 => .error .authentication
  | _ => .error (.operation (.refused operation response.code response.text))

/-! ## Operations -/

def probe (t : Transport τ) (server : Server) : Exchange τ Unit := do
  let request := .search server.base.text .base 0 Filter.everything.text ["1.1"]
  let response ← call t server request (.connection .probeLost)
  if !response.done then
    throw (.connection (.probeRefused response.refusal))
  if response.entries.isEmpty then
    throw (.connection (.baseMissing server.base.text))

def create (t : Transport τ) (server : Server) (entry : Entry) : Exchange τ Unit := do
  let name := entry.name.text
  let response ← call t server (.add name entry.attributes.additions) (.operation (.createLost name))
  Action.ofExcept (accept response entry.name "add")

def lookup (t : Transport τ) (server : Server) (n : Name) : Exchange τ Entry := do
  let response ← call t server (.search n.text .base 0 Filter.everything.text ["*"]) (.operation .lookupLost)
  Action.ofExcept (accept response n "lookup")
  match response.entries with
  | [] => throw (.notFound n)
  | raw :: _ => Action.ofExcept raw.entry

/-- Looks the entry up and sends what is different; nothing different is nothing sent. -/
def update (t : Transport τ) (server : Server) (changes : Entry) : Exchange τ Unit := do
  let current ← lookup t server changes.name
  match current.attributes.changesTo changes.attributes with
  | [] => pure ()
  | list =>
    let name := changes.name.text
    let response ← call t server (.modify name list) (.operation (.updateLost name))
    Action.ofExcept (accept response changes.name "modify")

/-- Searches.  A result cut off at the limit that was asked for is no fault. -/
def search (t : Transport τ) (server : Server) (q : Query) : Exchange τ (List Row) := do
  let attributes := if q.attributes.isEmpty then ["*"] else q.attributes
  let request := .search q.base.text q.scope (sizeLimit q.limit) q.filter.text attributes
  let response ← call t server request (.operation .searchLost)
  if !(response.code == 4 && q.limit.isSome) then
    Action.ofExcept (accept response q.base "search")
  return response.entries.map RawEntry.entry

def unbind (t : Transport τ) (server : Server) (n : Name) : Exchange τ Unit := do
  let response ← call t server (.delete n.text) (.operation (.deleteLost n.text))
  Action.ofExcept (accept response n "delete")

/-- Ends the session, and unbinds on the connection if there is one. -/
def dispose (t : Transport τ) : Exchange τ Unit :=
  Action.ofStep (fun (session, s) =>
    (.ok (), ({ disposed := true }, if session.connected then t.notify .unbind s else s)))

/-! ## As a client -/

def label (server : Server) : String := "LDAP: " ++ server.host

def client (t : Transport τ) (server : Server) : Client (Session × τ) where
  label := label server
  probe := probe t server
  create := create t server
  update := update t server
  lookup := lookup t server
  search := search t server
  unbind := unbind t server

/-- The client of a server whose settings make sense. -/
def clientOf (t : Transport τ) (server : Server) : Except Fault (Client (Session × τ)) :=
  match server.check with
  | .ok _ => .ok (client t server)
  | .error fault => .error (.invalidSettings fault)

end Session
end DirectoryAccess
