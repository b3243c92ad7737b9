import DirectoryAccess.Proofs.Session.Traffic
/-!
# How a connection is set up

The first thing in the record of a session is how a connection is set up, and there are two ways for that to go
(`Setup`): there is none, or the bind on it is answered or lost.  Only a bind that is granted gives a connection to work
on (`Setup.of_ok`), and every other ending is a fault that says which it was (`Setup.of_error`).
-/
namespace DirectoryAccess

variable {τ : Type}

namespace Session

/-! ## Setting up a connection -/

/-- What passes while a connection is set up, and what comes of it. -/
inductive Setup (server : Server) : List Event → Except Fault Unit → Prop where
  | unreachable : Setup server [.opened false] (.error (.connection (.unreachable server.url)))
  | answered (answer : Option Response) :
      Setup server [.opened true, .exchanged (bindRequest server) answer] (bound server answer)

/-- **Connecting is one of the ways to set up a connection.** -/
theorem exec_connect_watched (t : Transport τ) (server : Server) (s : τ) (traffic : List Event) :
    ∃ events outcome s', (connect t.watched server).exec (s, traffic) = (outcome, (s', traffic ++ events)) ∧
      Setup server events outcome := by
  have hreach : (reach t.watched server).exec (s, traffic) =
      (.ok (t.connect server s).1, ((t.connect server s).2, traffic ++ [.opened (t.connect server s).1])) := rfl
  unfold connect
  rw [Action.exec_bind, hreach]
  generalize (t.connect server s).2 = s'
  cases (t.connect server s).1 with
  | false => exact ⟨_, _, s', rfl, .unreachable⟩
  | true =>
    have hbind := exec_bind t.watched server (s', traffic ++ [.opened true])
    refine ⟨_, _, (t.exchange none (bindRequest server) s').2, ?_, .answered (t.exchange none (bindRequest server) s').1⟩
    rw [List.append_cons traffic _ [_]]
    exact hbind

/-! ## What each ending means -/

variable {server : Server} {events : List Event} {fault : Fault}

/-- A connection is asked for first, and only once. -/
theorem Setup.eq_cons {outcome : Except Fault Unit} (h : Setup server events outcome) :
    ∃ up rest, events = .opened up :: rest ∧ ∀ e ∈ rest, e.opens = false := by
  cases h with
  | unreachable => exact ⟨false, [], rfl, by simp⟩
  | answered answer => exact ⟨true, _, rfl, List.forall_mem_singleton.2 rfl⟩

theorem Setup.asks_eq_false {outcome : Except Fault Unit} (h : Setup server events outcome) :
    ∀ e ∈ events, e.asks = false := by
  cases h with
  | unreachable => exact List.forall_mem_singleton.2 rfl
  | answered answer => exact List.forall_mem_cons.2 ⟨rfl, List.forall_mem_singleton.2 rfl⟩

theorem bound_eq_ok {answer : Option Response} (h : bound server answer = .ok ()) :
    let e := Event.exchanged (bindRequest server) answer
    e.grants = true ∧ e.fails = false := by
  cases answer with
  | none => cases h
  | some response =>
    by_cases hdone : response.done = true
    · refine ⟨hdone, ?_⟩
      show (!response.done) = false
      rw [hdone]
      rfl
    · rw [bound, if_neg hdone] at h
      split at h <;> cases h

theorem bound_eq_error {answer : Option Response} (h : bound server answer = .error fault) :
    let e := Event.exchanged (bindRequest server) answer
    e.grants = false ∧ e.fails = true ∧
      if e.denies then fault = .authentication else ∃ cause, fault = .connection cause := by
  cases answer with
  | none =>
    cases h
    exact ⟨rfl, rfl, _, rfl⟩
  | some response =>
    by_cases hdone : response.done = true
    · rw [bound, if_pos hdone] at h
      cases h
    · rw [bound, if_neg hdone] at h
      rw [Bool.not_eq_true] at hdone
      refine ⟨hdone, ?_, ?_⟩
      · show (!response.done) = true
        rw [hdone]
        rfl
      · show if (response.code == 49) = true then _ else _
        by_cases hcode : response.code = 49
        · rw [if_pos hcode] at h
          cases h
          rw [if_pos (beq_iff_eq.2 hcode)]
        · rw [if_neg hcode] at h
          cases h
          rw [if_neg (fun hbeq => hcode (beq_iff_eq.1 hbeq))]
          exact ⟨_, rfl⟩

/-- **A connection to work on**: it came about, every step succeeded, and a bind was granted. -/
theorem Setup.of_ok (h : Setup server events (.ok ())) :
    (∃ rest, events = .opened true :: rest ∧ (∀ e ∈ rest, e.opens = false) ∧ ∃ e ∈ rest, e.grants = true) ∧
      ∀ e ∈ events, e.fails = false := by
  generalize houtcome : (Except.ok () : Except Fault Unit) = outcome at h
  cases h with
  | unreachable => cases houtcome
  | answered answer =>
    obtain ⟨hgrants, hfails⟩ := bound_eq_ok houtcome.symm
    refine ⟨⟨_, rfl, List.forall_mem_singleton.2 rfl, _, List.mem_singleton_self _, hgrants⟩, ?_⟩
    exact List.forall_mem_cons.2 ⟨rfl, List.forall_mem_singleton.2 hfails⟩

/-- **No connection**: no bind was granted, a step failed, and the fault is that of credentials exactly where the
server said so. -/
theorem Setup.of_error (h : Setup server events (.error fault)) :
    (∀ e ∈ events, e.grants = false) ∧ (∃ e ∈ events, e.fails = true) ∧
      if events.any Event.denies then fault = .authentication else ∃ cause, fault = .connection cause := by
  generalize houtcome : (Except.error fault : Except Fault Unit) = outcome at h
  cases h with
  | unreachable =>
    cases houtcome
    exact ⟨List.forall_mem_singleton.2 rfl, ⟨_, List.mem_singleton_self _, rfl⟩, _, rfl⟩
  | answered answer =>
    obtain ⟨hgrants, hfails, hfault⟩ := bound_eq_error houtcome.symm
    refine ⟨List.forall_mem_cons.2 ⟨rfl, List.forall_mem_singleton.2 hgrants⟩, ?_, ?_⟩
    · exact ⟨_, List.mem_cons_of_mem _ (List.mem_singleton_self _), hfails⟩
    · rw [List.any_cons, List.any_cons, List.any_nil, Bool.or_false]
      exact hfault

end Session
end DirectoryAccess
