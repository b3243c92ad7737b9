import DirectoryAccess.Proofs.Client.Handing
import DirectoryAccess.Session
/-!
# What the operations of a session have in common

Whatever an operation does, it asks the directory something, and with the answer it is done or asks again.  That is a
`Plan`, which knows nothing of connections; every operation but `dispose` is a plan that is carried out request by
request (`Operation.exists_plan`).  So what holds of one request on a session and goes from request to request holds of
every operation.
-/
namespace DirectoryAccess

variable {σ τ α β : Type}

/-- A request of the directory itself, and not of the connection to it. -/
def Request.asks : Request → Bool
  | .search _ _ _ _ _ => true
  | .add _ _ => true
  | .modify _ _ => true
  | .delete _ => true
  | .bind _ _ => false
  | .unbind => false
  | .extended _ => false

theorem Action.ext {a b : Action σ α} (h : ∀ s, a.exec s = b.exec s) : a = b := funext h

theorem Action.ofExcept_bind (r : Except Fault α) (f : α → Except Fault β) :
    ((ofExcept r : Action σ α) >>= fun x => ofExcept (f x)) = ofExcept (r >>= f) := by
  cases r <;> rfl

theorem Client.gather_eq (c : Client σ) (q : Query) (handler : Handler τ) (start : τ) :
    c.gather q handler start = c.search q >>= fun rows =>
      Action.ofExcept (((feed handler rows).exec start).1.map (fun _ => ((feed handler rows).exec start).2)) := by
  -- The handler never sees the state of the client, so it may as well run on the rows alone.
  refine Action.ext (fun s => ?_)
  unfold gather
  rw [Action.exec_ofStep, exec_searchInto, Action.exec_bind]
  rcases (c.search q).exec s with ⟨fault | rows, s'⟩
  · rfl
  · dsimp only
    rw [Action.exec_ofExcept]
    rcases (feed handler rows).exec start with ⟨fault | x, t⟩ <;> rfl

namespace Session

/-! ## Operations and plans -/

inductive Operation : Type → Type 1 where
  | probe : Operation Unit
  | create (entry : Entry) : Operation Unit
  | update (changes : Entry) : Operation Unit
  | lookup (n : Name) : Operation Entry
  | search {σ : Type} (q : Query) (handler : Handler σ) (start : σ) : Operation σ
  | unbind (n : Name) : Operation Unit
  | dispose : Operation Unit

namespace Operation

def action (t : Transport τ) (server : Server) : Operation α → Exchange τ α
  | .probe => (client t server).probe
  | .create entry => (client t server).create entry
  | .update changes => (client t server).update changes
  | .lookup n => (client t server).lookup n
  | .search q handler start => (client t server).gather q handler start
  | .unbind n => (client t server).unbind n
  | .dispose => Session.dispose t

/-- Nothing is sent after it. -/
def ends : Operation α → Bool
  | .dispose => true
  | .probe => false
  | .create _ => false
  | .update _ => false
  | .lookup _ => false
  | .search _ _ _ => false
  | .unbind _ => false

end Operation

def afterAll (t : Transport τ) (server : Server) (st : Session × τ) (ops : List (Σ α : Type, Operation α)) :
    Session × τ :=
  ops.foldl (fun st o => ((o.2.action t server).exec st).2) st

inductive Plan (α : Type) where
  | done (outcome : Except Fault α)
  /-- Asks, and goes on with the response; `lost` is the fault where there is none. -/
  | ask (request : Request) (h : request.asks = true) (lost : Fault) (next : Response → Plan α)

namespace Plan

def run (t : Transport τ) (server : Server) : Plan α → Exchange τ α
  | .done outcome => Action.ofExcept outcome
  | .ask request _ lost next => call t server request lost >>= fun response => (next response).run t server

def andThen : Plan α → (α → Plan β) → Plan β
  | .done (.ok x), f => f x
  | .done (.error fault), _ => .done (.error fault)
  | .ask request h lost next, f => .ask request h lost (fun response => (next response).andThen f)

theorem run_andThen (t : Transport τ) (server : Server) (p : Plan α) (f : α → Plan β) :
    (p.andThen f).run t server = p.run t server >>= fun x => (f x).run t server := by
  induction p with
  | done outcome => cases outcome <;> rfl
  | ask request h lost next ih =>
    rw [andThen, run, run, bind_assoc]
    exact congrArg _ (funext ih)

end Plan

/-! ## The plan of each operation -/

section
variable (t : Transport τ) (server : Server)

theorem probe_eq_run : probe t server =
    (Plan.ask (.search server.base.text .base 0 Filter.everything.text ["1.1"]) rfl (.connection .probeLost)
      (fun response => .done
        (if !response.done then .error (.connection (.probeRefused response.refusal))
        else if response.entries.isEmpty then .error (.connection (.baseMissing server.base.text))
        else .ok ()))).run t server := by
  dsimp only [probe, Plan.run]
  refine congrArg _ (funext (fun response => ?_))
  cases response.done <;> cases response.entries.isEmpty <;> rfl

theorem create_eq_run (entry : Entry) : create t server entry =
    (Plan.ask (.add entry.name.text entry.attributes.additions) rfl (.operation (.createLost entry.name.text))
      (fun response => .done (accept response entry.name "add"))).run t server := rfl

theorem unbind_eq_run (n : Name) : unbind t server n =
    (Plan.ask (.delete n.text) rfl (.operation (.deleteLost n.text))
      (fun response => .done (accept response n "delete"))).run t server := rfl

def lookupPlan (n : Name) : Plan Entry :=
  .ask (.search n.text .base 0 Filter.everything.text ["*"]) rfl (.operation .lookupLost) (fun response =>
    .done (accept response n "lookup" >>= fun _ =>
      match response.entries with
      | [] => .error (.notFound n)
      | raw :: _ => raw.entry))

theorem lookup_eq_run (n : Name) : lookup t server n = (lookupPlan n).run t server := by
  unfold lookup lookupPlan
  refine congrArg _ (funext (fun response => ?_))
  dsimp only [Plan.run]
  rw [← Action.ofExcept_bind]
  refine congrArg _ (funext (fun _ => ?_))
  cases response.entries <;> rfl

def searchPlan (q : Query) : Plan (List Row) :=
  .ask (.search q.base.text q.scope (sizeLimit q.limit) q.filter.text
      (if q.attributes.isEmpty then ["*"] else q.attributes)) rfl (.operation .searchLost) (fun response =>
    .done ((if !(response.code == 4 && q.limit.isSome) then accept response q.base "search" else .ok ()) >>= fun _ =>
      .ok (response.entries.map RawEntry.entry)))

theorem search_eq_run (q : Query) : search t server q = (searchPlan q).run t server := by
  dsimp only [search, searchPlan, Plan.run]
  refine congrArg _ (funext (fun response => ?_))
  cases (response.code == 4 && q.limit.isSome) with
  | true => rfl
  | false => exact Action.ofExcept_bind _ _

theorem update_eq_run (changes : Entry) : update t server changes =
    ((lookupPlan changes.name).andThen (fun current =>
      match current.attributes.changesTo changes.attributes with
      | [] => .done (.ok ())
      | list => .ask (.modify changes.name.text list) rfl (.operation (.updateLost changes.name.text))
          (fun response => .done (accept response changes.name "modify")))).run t server := by
  rw [Plan.run_andThen, ← lookup_eq_run]
  unfold update
  refine congrArg _ (funext (fun current => ?_))
  cases current.attributes.changesTo changes.attributes <;> rfl

end

/-- **Every operation but `dispose` asks first**, and then carries out a plan. -/
theorem Operation.exists_plan (server : Server) (o : Operation α) (h : o.ends = false) :
    ∃ request hasks lost next, ∀ {τ : Type} (t : Transport τ),
      o.action t server = (Plan.ask request hasks lost next).run t server := by
  cases o with
  | probe => exact ⟨_, _, _, _, fun t => probe_eq_run t server⟩
  | create entry => exact ⟨_, _, _, _, fun t => create_eq_run t server entry⟩
  | update changes => exact ⟨_, _, _, _, fun t => update_eq_run t server changes⟩
  | lookup n => exact ⟨_, _, _, _, fun t => lookup_eq_run t server n⟩
  | search q handler start =>
    have hgather {τ : Type} (t : Transport τ) : (Operation.search q handler start).action t server =
        ((searchPlan q).andThen (fun rows => .done
          (((feed handler rows).exec start).1.map (fun _ => ((feed handler rows).exec start).2)))).run t server := by
      rw [Plan.run_andThen, ← search_eq_run]
      exact Client.gather_eq (client t server) q handler start
    exact ⟨_, _, _, _, hgather⟩
  | unbind n => exact ⟨_, _, _, _, fun t => unbind_eq_run t server n⟩
  | dispose => cases h

end Session
end DirectoryAccess
