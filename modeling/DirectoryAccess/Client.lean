import DirectoryAccess.Action
import DirectoryAccess.Search
/-!
# Clients

A client is what repositories need of a directory: five operations on entries and a check of the connection, over a
state of the client's own.  Each is one exchange with the directory and is never repeated.

A search gives rows in the order of the directory.  A row is an entry or a fault in reading it, and a fault counts only
once the rows before it are used up.  Rows are handed to a handler one by one, and the first fault, of a row or of the
handler, ends that (`feed`); collecting and counting are two handlers.
-/
namespace DirectoryAccess

/-- One entry found, or the reason it cannot be read. -/
abbrev Row := Except Fault Entry

/-- What is done with each entry found. -/
abbrev Handler (τ : Type) := Entry → Action τ Unit

/-- Hands the rows to the handler until one of the two fails. -/
def feed {τ : Type} (handler : Handler τ) : List Row → Action τ Unit
  | [] => pure ()
  | .error e :: _ => throw e
  | .ok entry :: rows => do
    handler entry
    feed handler rows

structure Client (σ : Type) where
  label : String
  /-- Checks that the directory answers. -/
  probe : Action σ Unit
  /-- Adds an entry whose name is not taken. -/
  create : Entry → Action σ Unit
  /-- Writes the attributes named in an entry onto the one that is there; a null removes. -/
  update : Entry → Action σ Unit
  lookup : Name → Action σ Entry
  search : Query → Action σ (List Row)
  /-- Removes the entry of that name. -/
  unbind : Name → Action σ Unit

namespace Client

variable {σ τ : Type}

/-- Searches and hands what is found to the handler, which has a state of its own. -/
def searchInto (c : Client σ) (q : Query) (handler : Handler τ) : Action (σ × τ) Unit := do
  let rows ← (c.search q).onFirst
  (feed handler rows).onSecond

def collect : Handler (List Entry) := fun entry => modify (· ++ [entry])

def tally : Handler Nat := fun _ => modify (· + 1)

/-- Runs a search with a handler and gives the state in which it leaves the handler. -/
def gather (c : Client σ) (q : Query) (handler : Handler τ) (initial : τ) : Action σ τ :=
  Action.ofStep (fun s =>
    match (c.searchInto q handler).exec (s, initial) with
    | (.ok _, (s, t)) => (.ok t, s)
    | (.error e, (s, _)) => (.error e, s))

/-- The entries that a search finds. -/
def find (c : Client σ) (q : Query) : Action σ (List Entry) := c.gather q collect []

/-- How many entries a search finds. -/
def count (c : Client σ) (q : Query) : Action σ Nat := c.gather q tally 0

/-- The one entry that a search finds. -/
def findOne (c : Client σ) (q : Query) : Action σ Entry := do
  match ← c.find q with
  | [] => throw .emptyResult
  | [entry] => return entry
  | entries => throw (.cardinality 1 entries.length)

def delete (c : Client σ) (entry : Entry) : Action σ Unit := c.unbind entry.name

end Client

/-! ## Handlers over rows -/

theorem exec_feed_cons {τ : Type} (handler : Handler τ) (entry : Entry) (rows : List Row) (t : τ) :
    (feed handler (.ok entry :: rows)).exec t =
      match (handler entry).exec t with
      | (.ok _, t') => (feed handler rows).exec t'
      | (.error e, t') => (.error e, t') := by
  rw [feed, Action.exec_bind]
  rcases (handler entry).exec t with ⟨_ | _, _⟩ <;> rfl

/-- Collecting rows without a fault keeps them all, in order. -/
theorem exec_feed_collect : ∀ (entries found : List Entry),
    (feed Client.collect (entries.map Except.ok)).exec found = (.ok (), found ++ entries)
  | [], found => by simp [feed]
  | entry :: entries, found => by
    rw [List.map_cons, exec_feed_cons]
    show (feed Client.collect (entries.map Except.ok)).exec (found ++ [entry]) = _
    simp [exec_feed_collect entries]

/-- Counting rows without a fault counts them all. -/
theorem exec_feed_tally : ∀ (entries : List Entry) (n : Nat),
    (feed Client.tally (entries.map Except.ok)).exec n = (.ok (), n + entries.length)
  | [], n => by simp [feed]
  | entry :: entries, n => by
    rw [List.map_cons, exec_feed_cons]
    show (feed Client.tally (entries.map Except.ok)).exec (n + 1) = _
    rw [exec_feed_tally entries]
    simp only [List.length_cons]
    congr 1; omega

end DirectoryAccess
