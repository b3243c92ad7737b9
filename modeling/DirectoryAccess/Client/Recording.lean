import DirectoryAccess.Client
/-!
# Recorded clients

A client that keeps a record of what it is asked before it passes it on to another one.  For calls of certain kinds
faults can be laid out: such a call fails with the fault laid out for it, which is used up, and is not passed on.  Only
the first fault that is left is looked at, so faults come up in the order in which they were laid out.
-/
namespace DirectoryAccess

/-- What a client was asked to do, and with which entry or below which base. -/
structure Call where
  word : String
  target : Name
deriving DecidableEq

def Call.text (c : Call) : String := c.word ++ " " ++ c.target.text

structure Recording (σ : Type) where
  inner : σ
  /-- Faults still to come up, with the words for the calls that they are laid out for. -/
  faults : List (String × Fault) := []
  calls : List Call := []
  /-- What the last search gave. -/
  rows : List Row := []

namespace Recording

variable {σ α : Type}

/-- Records the call, then fails or does what was asked. -/
def call (c : Call) (a : Action σ α) : Action (Recording σ) α :=
  Action.ofStep (fun r =>
    let r := { r with calls := r.calls ++ [c] }
    let pass := ((a.exec r.inner).1, { r with inner := (a.exec r.inner).2 })
    match r.faults with
    | [] => pass
    | (word, fault) :: faults => if word = c.word then (.error fault, { r with faults }) else pass)

def client (label : String) (c : Client σ) : Client (Recording σ) where
  label := label
  probe := Action.ofStep (fun r => ((c.probe.exec r.inner).1, { r with inner := (c.probe.exec r.inner).2 }))
  create e := call ⟨"create", e.name⟩ (c.create e)
  update e := call ⟨"update", e.name⟩ (c.update e)
  lookup n := call ⟨"lookup", n⟩ (c.lookup n)
  search q := do
    let rows ← call ⟨"search", q.base⟩ (c.search q)
    modify (fun r => { r with rows })
    return rows
  unbind n := call ⟨"unbind", n⟩ (c.unbind n)

end Recording
end DirectoryAccess
