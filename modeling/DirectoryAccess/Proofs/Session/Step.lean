import DirectoryAccess.Proofs.Session.Setup
/-!
# What one operation can do

On a session that is connected, all that passes asks the directory, and the session stays connected (`Carried`).  So
there are four things that an operation other than `dispose` can do (`Step`): fail at the end of the session, fail to
set up a connection, set one up and be carried out on it, or be carried out on the one there is.
-/
namespace DirectoryAccess
namespace Session

variable {τ α : Type}

/-- The record of a session that is watched. -/
def traffic (st : Session × (τ × List Event)) : List Event := st.2.2

/-- The session is connected and not at its end. -/
def Linked (session : Session) : Prop := session.connected = true ∧ session.disposed = false

/-- The session stays connected, and all that passes asks the directory. -/
structure Carried (before after : Session × (τ × List Event)) : Prop where
  linked : after.1.Linked
  asked : ∃ asked, traffic after = traffic before ++ asked ∧ ∀ e ∈ asked, e.asks = true

theorem Carried.refl {st : Session × (τ × List Event)} (h : st.1.Linked) : Carried st st :=
  ⟨h, [], (List.append_nil _).symm, fun _ he => by cases he⟩

theorem Carried.trans {x y z : Session × (τ × List Event)} (h : Carried x y) (h' : Carried y z) : Carried x z := by
  obtain ⟨-, asked, hasked, hasks⟩ := h
  obtain ⟨hlinked, more, hmore, hasks'⟩ := h'
  exact ⟨hlinked, asked ++ more, by rw [hmore, hasked, List.append_assoc], List.forall_mem_append.2 ⟨hasks, hasks'⟩⟩

/-- What any operation but `dispose` can do, from a session and its transport to an outcome and what is after it. -/
inductive Step (server : Server) (before : Session × (τ × List Event)) :
    Except Fault α → Session × (τ × List Event) → Prop where
  | ended (h : before.1.disposed = true) : Step server before (.error (.invalidSettings .disposed)) before
  | failed (h : before.1 = {}) {events : List Event} {fault : Fault} (hsetup : Setup server events (.error fault))
      (s : τ) : Step server before (.error fault) ({}, (s, traffic before ++ events))
  | connected (h : before.1 = {}) {events : List Event} (hsetup : Setup server events (.ok ())) {s : τ}
      {outcome : Except Fault α} {after : Session × (τ × List Event)}
      (hcarried : Carried ({ connected := true }, (s, traffic before ++ events)) after) : Step server before outcome after
  | carried (h : before.1.Linked) {outcome : Except Fault α} {after : Session × (τ × List Event)}
      (hcarried : Carried before after) : Step server before outcome after

theorem Step.disposed_eq {server : Server} {before after : Session × (τ × List Event)} {outcome : Except Fault α}
    (h : Step server before outcome after) : after.1.disposed = before.1.disposed := by
  cases h with
  | ended h => rfl
  | failed h hsetup s => rw [h]
  | connected h hsetup hcarried => rw [h, hcarried.linked.2]
  | carried h hcarried => rw [h.2, hcarried.linked.2]

section
variable (t : Transport τ) (server : Server)

theorem carried_exchange (seconds : Option UInt64) (request : Request) (hasks : request.asks = true)
    {st : Session × (τ × List Event)} (h : st.1.Linked) :
    Carried st ((exchange t.watched seconds request).onSecond.exec st).2 :=
  ⟨h, [.exchanged request (t.exchange seconds request st.2.1).1], rfl, List.forall_mem_singleton.2 hasks⟩

theorem exec_ensureConnected_of_linked {st : Session × τ} (h : st.1.Linked) :
    (ensureConnected t server).exec st = (.ok (), st) := by
  obtain ⟨hconnected, hdisposed⟩ := h
  rw [exec_ensureConnected, hdisposed, hconnected]
  rfl

theorem exec_ensureConnected_of_unlinked (s : τ) :
    (ensureConnected t server).exec ({}, s) =
      match (connect t server).exec s with
      | (.ok _, s') => (.ok (), ({ connected := true }, s'))
      | (.error fault, s') => (.error fault, ({}, s')) := exec_ensureConnected t server ({}, s)

theorem carried_call (request : Request) (hasks : request.asks = true) (lost : Fault)
    {st : Session × (τ × List Event)} (h : st.1.Linked) :
    Carried st ((call t.watched server request lost).exec st).2 := by
  have hexchange := carried_exchange t (some server.timeouts.read) request hasks h
  unfold call
  rw [Action.exec_bind, exec_ensureConnected_of_linked t.watched server h]
  dsimp only
  rw [Action.exec_bind]
  generalize (exchange t.watched (some server.timeouts.read) request).onSecond.exec st = r at hexchange
  obtain ⟨fault | answer, after⟩ := r
  · exact hexchange
  · cases answer <;> exact hexchange

theorem carried_run (p : Plan α) {st : Session × (τ × List Event)} (h : st.1.Linked) :
    Carried st ((p.run t.watched server).exec st).2 := by
  -- By the plan, from any session that is connected: each request leaves it so.
  induction p generalizing st with
  | done outcome => exact .refl h
  | ask request hasks lost next ih =>
    have hcall := carried_call t server request hasks lost h
    rw [Plan.run, Action.exec_bind]
    rcases hexec : (call t.watched server request lost).exec st with ⟨fault | response, after⟩ <;> rw [hexec] at hcall
    · exact hcall
    · exact hcall.trans (ih response hcall.linked)

theorem exec_ask_of_error {request : Request} {hasks : request.asks = true} {lost fault : Fault}
    {next : Response → Plan α} {st after : Session × τ} (h : (ensureConnected t server).exec st = (.error fault, after)) :
    ((Plan.ask request hasks lost next).run t server).exec st = (.error fault, after) := by
  rw [Plan.run, Action.exec_bind, call, Action.exec_bind, h]

theorem exec_ask_of_ok {request : Request} {hasks : request.asks = true} {lost : Fault}
    {next : Response → Plan α} {st linked : Session × τ} (h : (ensureConnected t server).exec st = (.ok (), linked))
    (hlinked : linked.1.Linked) :
    ((Plan.ask request hasks lost next).run t server).exec st =
      ((Plan.ask request hasks lost next).run t server).exec linked := by
  -- Making sure of a connection where there is one does nothing.
  rw [Plan.run, Action.exec_bind, Action.exec_bind, call, Action.exec_bind, Action.exec_bind, h,
    exec_ensureConnected_of_linked t server hlinked]

theorem step_of_plan {request : Request} {hasks : request.asks = true} {lost : Fault} {next : Response → Plan α}
    (st : Session × (τ × List Event)) :
    let a := (Plan.ask request hasks lost next).run t.watched server
    Step server st (a.exec st).1 (a.exec st).2 := by
  intro a
  by_cases hdisposed : st.1.disposed = true
  · have hensure : (ensureConnected t.watched server).exec st = (.error (.invalidSettings .disposed), st) := by
      rw [exec_ensureConnected, if_pos hdisposed]
    rw [exec_ask_of_error t.watched server hensure]
    exact .ended hdisposed
  · rw [Bool.not_eq_true] at hdisposed
    by_cases hconnected : st.1.connected = true
    · exact .carried ⟨hconnected, hdisposed⟩ (carried_run t server _ ⟨hconnected, hdisposed⟩)
    · obtain ⟨⟨connected, disposed⟩, s, events⟩ := st
      cases connected with
      | true => exact absurd rfl hconnected
      | false =>
        subst hdisposed
        obtain ⟨opening, outcome, s', hconnect, hsetup⟩ := exec_connect_watched t server s events
        have hensure := exec_ensureConnected_of_unlinked t.watched server (s, events)
        rw [hconnect] at hensure
        cases outcome with
        | error fault =>
          show Step server _ (a.exec ({}, (s, events))).1 (a.exec ({}, (s, events))).2
          rw [exec_ask_of_error t.watched server hensure]
          exact .failed rfl hsetup s'
        | ok _ =>
          show Step server _ (a.exec ({}, (s, events))).1 (a.exec ({}, (s, events))).2
          rw [exec_ask_of_ok t.watched server hensure ⟨rfl, rfl⟩]
          exact .connected rfl hsetup (carried_run t server _ ⟨rfl, rfl⟩)

theorem step_action (o : Operation α) (h : o.ends = false) (st : Session × (τ × List Event)) :
    Step server st ((o.action t.watched server).exec st).1 ((o.action t.watched server).exec st).2 := by
  obtain ⟨request, hasks, lost, next, hplan⟩ := o.exists_plan server h
  rw [hplan t.watched]
  exact step_of_plan t server st

/-- At its end a session unbinds on the connection there is, and nothing else passes. -/
theorem exec_dispose_watched (st : Session × (τ × List Event)) :
    ∃ s told, (dispose t.watched).exec st = (.ok (), ({ disposed := true }, (s, traffic st ++ told))) ∧
      (∀ e ∈ told, e = .told .unbind) ∧ (st.1.connected = false → told = []) := by
  obtain ⟨⟨connected, disposed⟩, s, events⟩ := st
  cases connected with
  | true => exact ⟨t.notify .unbind s, [.told .unbind], rfl, by simp, fun h => by cases h⟩
  | false =>
    have hnothing : traffic (⟨false, disposed⟩, s, events) ++ [] = events := List.append_nil events
    exact ⟨s, [], by rw [hnothing]; rfl, by simp, fun _ => rfl⟩

end

end Session
end DirectoryAccess
