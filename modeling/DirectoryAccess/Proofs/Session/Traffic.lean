import DirectoryAccess.Proofs.Session.Plan
/-!
# What passes between a session and its transport

A transport that is watched keeps a record of every connection it opens and of every request with its answer.  Nothing
else is different with it: whatever operations are called, their outcomes are the same and so are the states they leave
(`exec_action_unwatched`, `afterAll_unwatched`).
-/
namespace DirectoryAccess

variable {σ ρ τ α β : Type}

inductive Event where
  /-- A connection was asked for, and came about or not. -/
  | opened (up : Bool)
  /-- A request was sent, and answered or not. -/
  | exchanged (request : Request) (answer : Option Response)
  | told (request : Request)
deriving DecidableEq

namespace Event

def opens : Event → Bool
  | .opened _ => true
  | .exchanged _ _ => false
  | .told _ => false

def asks : Event → Bool
  | .opened _ => false
  | .exchanged request _ => request.asks
  | .told request => request.asks

/-- A bind that was answered with success. -/
def grants : Event → Bool
  | .exchanged (.bind _ _) (some response) => response.done
  | _ => false

/-- A bind that was answered with invalid credentials. -/
def denies : Event → Bool
  | .exchanged (.bind _ _) (some response) => response.code == 49
  | _ => false

/-- A step on the way to a connection that did not succeed. -/
def fails : Event → Bool
  | .opened up => !up
  | .exchanged request answer => !request.asks && !answer.any Response.done
  | .told _ => false

theorem of_asks {e : Event} (h : e.asks = true) : e.opens = false ∧ e.fails = false := by
  cases e with
  | opened up => cases h
  | told request => exact ⟨rfl, rfl⟩
  | exchanged request answer =>
    have hasks : request.asks = true := h
    exact ⟨rfl, by simp [fails, hasks]⟩

end Event

/-- The same transport, with a record of what passes beside its own state. -/
def Transport.watched (t : Transport τ) : Transport (τ × List Event) where
  connect server s :=
    ((t.connect server s.1).1, ((t.connect server s.1).2, s.2 ++ [.opened (t.connect server s.1).1]))
  exchange seconds request s :=
    ((t.exchange seconds request s.1).1,
      ((t.exchange seconds request s.1).2, s.2 ++ [.exchanged request (t.exchange seconds request s.1).1]))
  notify request s := (t.notify request s.1, s.2 ++ [.told request])

/-- What `b` does is what `a` does, seen through `f`. -/
def Action.Through (f : σ → ρ) (a : Action σ α) (b : Action ρ α) : Prop :=
  ∀ s, b.exec (f s) = ((a.exec s).1, f (a.exec s).2)

namespace Action

variable {f : σ → ρ}

theorem through_ofExcept (r : Except Fault α) : Through f (ofExcept r) (ofExcept r) := fun _ => rfl

theorem Through.bind {a : Action σ α} {b : Action ρ α} {k : α → Action σ β} {l : α → Action ρ β}
    (h : Through f a b) (hnext : ∀ x, Through f (k x) (l x)) : Through f (a >>= k) (b >>= l) := by
  intro s
  rw [exec_bind, exec_bind, h s]
  rcases a.exec s with ⟨fault | x, s'⟩
  · rfl
  · exact hnext x s'

end Action

namespace Session

open DirectoryAccess.Action (Through through_ofExcept)

/-! ## Connecting -/

def bindRequest (server : Server) : Request := .bind server.bindName (server.password.getD "")

/-- What the answer to the bind comes to. -/
def bound (server : Server) : Option Response → Except Fault Unit
  | none => .error (.connection (.bindLost server.bindName))
  | some response =>
    if response.done then .ok ()
    else if response.code = 49 then .error .authentication
    else .error (.connection (.bindRefused response.code response.text))

section
variable (t : Transport τ) (server : Server)

theorem exec_bind (s : τ) :
    (bind t server).exec s =
      (bound server (t.exchange none (bindRequest server) s).1, (t.exchange none (bindRequest server) s).2) := by
  unfold bind exchange bindRequest
  rw [Action.exec_bind, Action.exec_ofStep]
  dsimp only
  cases (t.exchange none (.bind server.bindName (server.password.getD "")) s).1 with
  | none => rfl
  | some response =>
    dsimp only [bound]
    by_cases hdone : response.done = true
    · rw [if_pos hdone, if_pos hdone]
      rfl
    · rw [if_neg hdone, if_neg hdone]
      by_cases hcode : response.code = 49
      · rw [if_pos hcode, if_pos hcode]
        rfl
      · rw [if_neg hcode, if_neg hcode]
        rfl

theorem exec_ensureConnected (st : Session × τ) :
    (ensureConnected t server).exec st =
      if st.1.disposed then (.error (.invalidSettings .disposed), st)
      else if st.1.connected then (.ok (), st)
      else
        match (connect t server).exec st.2 with
        | (.ok _, s) => (.ok (), ({ st.1 with connected := true }, s))
        | (.error fault, s) => (.error fault, (st.1, s)) := by
  obtain ⟨⟨connected, disposed⟩, s⟩ := st
  cases disposed with
  | true => rfl
  | false =>
    cases connected with
    | true => rfl
    | false =>
      have hexec : (ensureConnected t server).exec (({} : Session), s) =
          ((connect t server).onSecond >>= fun _ =>
            (modify (fun s => ({ s.1 with connected := true }, s.2)) : Exchange τ Unit)).exec (({} : Session), s) := rfl
      rw [hexec, Action.exec_bind, Action.exec_onSecond]
      dsimp only
      rcases (connect t server).exec s with ⟨fault | _, s'⟩ <;> rfl

end

/-! ## A session that is watched -/

/-- The states without the record. -/
def unwatched (st : Session × (τ × List Event)) : Session × τ := (st.1, st.2.1)

variable (t : Transport τ) (server : Server)

theorem through_reach : Through Prod.fst (reach t.watched server) (reach t server) := fun _ => rfl

theorem through_exchange (seconds : Option UInt64) (request : Request) :
    Through Prod.fst (exchange t.watched seconds request) (exchange t seconds request) := fun _ => rfl

theorem through_bind : Through Prod.fst (bind t.watched server) (bind t server) := by
  intro s
  rw [exec_bind, exec_bind]
  rfl

theorem through_connect : Through Prod.fst (connect t.watched server) (connect t server) := by
  refine (through_reach t server).bind (fun up => ?_)
  cases up with
  | false => exact through_ofExcept _
  | true => exact through_bind t server

theorem through_onSecond {a : Action (τ × List Event) α} {b : Action τ α} (h : Through Prod.fst a b) :
    Through unwatched a.onSecond b.onSecond := by
  intro st
  rw [Action.exec_onSecond, Action.exec_onSecond]
  dsimp only [unwatched]
  rw [h st.2]

theorem through_ensureConnected :
    Through unwatched (ensureConnected t.watched server) (ensureConnected t server) := by
  intro st
  rw [exec_ensureConnected, exec_ensureConnected]
  show (if st.1.disposed then _ else if st.1.connected then _ else _) = _
  cases st.1.disposed with
  | true => rfl
  | false =>
    cases st.1.connected with
    | true => rfl
    | false =>
      have hconnect := through_connect t server st.2
      dsimp only [unwatched]
      rw [hconnect]
      rcases (connect t.watched server).exec st.2 with ⟨fault | _, s⟩ <;> rfl

theorem through_call (request : Request) (lost : Fault) :
    Through unwatched (call t.watched server request lost) (call t server request lost) := by
  refine (through_ensureConnected t server).bind (fun _ => ?_)
  refine (through_onSecond (through_exchange t _ request)).bind (fun answer => ?_)
  cases answer <;> exact through_ofExcept _

theorem through_run (p : Plan α) : Through unwatched (p.run t.watched server) (p.run t server) := by
  induction p with
  | done outcome => exact through_ofExcept outcome
  | ask request h lost next ih =>
    -- The response is the same on both sides, so what is asked next is too.
    exact (through_call t server request lost).bind ih

theorem through_dispose : Through unwatched (dispose t.watched) (dispose t) := by
  rintro ⟨⟨connected, disposed⟩, s, traffic⟩
  cases connected <;> rfl

/-- **Watching changes nothing**: an operation has the outcome that it has unwatched, and leaves the same states. -/
theorem exec_action_unwatched (o : Operation α) (st : Session × (τ × List Event)) :
    (o.action t server).exec (unwatched st) =
      (((o.action t.watched server).exec st).1, unwatched ((o.action t.watched server).exec st).2) := by
  by_cases h : o.ends = true
  · cases o with
    | dispose => exact through_dispose t st
    | _ => cases h
  · obtain ⟨request, hasks, lost, next, hplan⟩ := o.exists_plan server (Bool.eq_false_iff.2 h)
    rw [hplan t, hplan t.watched]
    exact through_run t server _ st

theorem afterAll_unwatched (ops : List (Σ α : Type, Operation α)) (st : Session × (τ × List Event)) :
    afterAll t server (unwatched st) ops = unwatched (afterAll t.watched server st ops) := by
  induction ops generalizing st with
  | nil => rfl
  | cons o ops ih =>
    unfold afterAll at ih ⊢
    rw [List.foldl_cons, List.foldl_cons, exec_action_unwatched, ih]

end Session
end DirectoryAccess
