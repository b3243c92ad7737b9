import DirectoryAccess.Fault
/-!
# Steps that may fail

An action changes a state and gives a result or a fault.  A fault keeps the state as the action left it: what was sent
is sent and what was stored is stored.  `exec` is the view of an action as a function; each way to make one has its
law about `exec`, and nothing else about actions is used.
-/
namespace DirectoryAccess

abbrev Action (σ α : Type) := ExceptT Fault (StateM σ) α

namespace Action

variable {σ τ α β : Type}

/-- What the action does from a state. -/
def exec (a : Action σ α) (s : σ) : Except Fault α × σ := (ExceptT.run a).run s

def ofStep (f : σ → Except Fault α × σ) : Action σ α := ExceptT.mk (StateT.mk f)

/-- A result or a fault, without touching the state. -/
def ofExcept (r : Except Fault α) : Action σ α := ofStep (fun s => (r, s))

/-- Replaces the state, or fails and leaves it. -/
def ofUpdate (f : σ → Except Fault σ) : Action σ Unit :=
  ofStep (fun s =>
    match f s with
    | .ok s' => (.ok (), s')
    | .error e => (.error e, s))

/-- The outcome as a value, fault or not. -/
def attempt (a : Action σ α) : Action σ (Except Fault α) :=
  ofStep (fun s => (.ok (a.exec s).1, (a.exec s).2))

/-- On the first of two states. -/
def onFirst (a : Action σ α) : Action (σ × τ) α :=
  ofStep (fun s => ((a.exec s.1).1, ((a.exec s.1).2, s.2)))

/-- On the second of two states. -/
def onSecond (a : Action τ α) : Action (σ × τ) α :=
  ofStep (fun s => ((a.exec s.2).1, (s.1, (a.exec s.2).2)))

@[simp] theorem exec_ofStep (f : σ → Except Fault α × σ) (s : σ) : (ofStep f).exec s = f s := rfl

@[simp] theorem exec_ofExcept (r : Except Fault α) (s : σ) : (ofExcept r : Action σ α).exec s = (r, s) := rfl

@[simp] theorem exec_pure (a : α) (s : σ) : (pure a : Action σ α).exec s = (.ok a, s) := rfl

@[simp] theorem exec_throw (e : Fault) (s : σ) : (throw e : Action σ α).exec s = (.error e, s) := rfl

theorem exec_bind (a : Action σ α) (f : α → Action σ β) (s : σ) :
    (a >>= f).exec s =
      match a.exec s with
      | (.ok x, s') => (f x).exec s'
      | (.error e, s') => (.error e, s') := by
  show (ExceptT.bindCont f (a.exec s).1 : StateM σ (Except Fault β)) (a.exec s).2 = _
  rcases a.exec s with ⟨_ | _, _⟩ <;> rfl

@[simp] theorem exec_attempt (a : Action σ α) (s : σ) : a.attempt.exec s = (.ok (a.exec s).1, (a.exec s).2) := rfl

end Action
end DirectoryAccess
