import DirectoryAccess.Proofs.Session.Step
import DirectoryAccess.Wire.Script
/-!
# The life of a session

A session is unconnected, connected or at its end, and whatever operations are called on it, one after the other, what
passes between it and its transport keeps to an order (`life_cycle`).  The directory is asked only on a connection on
which a bind was granted; once one was, no other connection is opened; a connection that does not come about is a fault
and leaves the session as unconnected as it was; and at the end nothing passes any more.

`Step` is all that one operation can do, `Kept` what it preserves.
-/
namespace DirectoryAccess
namespace Session

variable {τ α : Type}

/-! ## Records -/

/-- The last connection that was opened came about, and a bind was granted on it. -/
def BoundAt (events : List Event) : Prop :=
  ∃ earlier since, events = earlier ++ .opened true :: since ∧ (∀ e ∈ since, e.opens = false) ∧
    ∃ e ∈ since, e.grants = true

/-- Whatever is asked is asked on a connection on which a bind was granted before. -/
def AsksBound (events : List Event) : Prop :=
  ∀ front e back, events = front ++ e :: back → e.asks = true → BoundAt front

/-- No connection is opened after a bind was granted. -/
def OpensUnbound (events : List Event) : Prop :=
  events.Pairwise (fun e later => e.grants = true → later.opens = false)

theorem BoundAt.append {events more : List Event} (h : BoundAt events) (hmore : ∀ e ∈ more, e.opens = false) :
    BoundAt (events ++ more) := by
  obtain ⟨earlier, since, rfl, hsince, e, he, hgrants⟩ := h
  have hopens := List.forall_mem_append.2 ⟨hsince, hmore⟩
  exact ⟨earlier, since ++ more, by simp, hopens, e, List.mem_append_left _ he, hgrants⟩

theorem BoundAt.exists_grants {events : List Event} (h : BoundAt events) : ∃ e ∈ events, e.grants = true := by
  obtain ⟨earlier, since, rfl, -, e, he, hgrants⟩ := h
  exact ⟨e, List.mem_append_right _ (List.mem_cons_of_mem _ he), hgrants⟩

theorem AsksBound.append {events more : List Event} (h : AsksBound events)
    (hmore : ∀ front e back, more = front ++ e :: back → e.asks = true → BoundAt (events ++ front)) :
    AsksBound (events ++ more) := by
  intro front e back hsplit hasks
  -- The event is among the new ones, or the first of them, or among the old ones.
  rcases List.append_eq_append_iff.1 hsplit with ⟨within, rfl, hwithin⟩ | ⟨within, hwithin, hback⟩
  · exact hmore within e back hwithin hasks
  · cases within with
    | nil =>
      rw [List.append_nil] at hwithin
      subst hwithin
      have hfront := hmore [] e back hback.symm hasks
      rwa [List.append_nil] at hfront
    | cons x within =>
      rw [List.cons_append, List.cons.injEq] at hback
      obtain ⟨rfl, -⟩ := hback
      exact h front e within hwithin hasks

theorem AsksBound.append_quiet {events more : List Event} (h : AsksBound events) (hmore : ∀ e ∈ more, e.asks = false) :
    AsksBound (events ++ more) := by
  refine h.append (fun front e back hsplit hasks => ?_)
  have he : e ∈ more := by simp [hsplit]
  rw [hmore e he] at hasks
  cases hasks

theorem OpensUnbound.append {events more : List Event} (h : OpensUnbound events) (hmore : ∀ e ∈ more, e.opens = false) :
    OpensUnbound (events ++ more) := by
  refine List.pairwise_append.2 ⟨h, ?_, fun e _ later hlater _ => hmore later hlater⟩
  exact List.pairwise_of_forall_mem_list (fun e _ later hlater _ => hmore later hlater)

theorem opensUnbound_append_opened {events rest : List Event} {up : Bool} (h : ∀ e ∈ events, e.grants = false)
    (hrest : ∀ e ∈ rest, e.opens = false) : OpensUnbound (events ++ .opened up :: rest) := by
  refine List.pairwise_append.2 ⟨?_, List.pairwise_cons.2 ⟨fun later hlater _ => hrest later hlater, ?_⟩, ?_⟩
  · refine List.pairwise_of_forall_mem_list (fun e he later _ hgrants => ?_)
    rw [h e he] at hgrants
    cases hgrants
  · exact List.pairwise_of_forall_mem_list (fun e _ later hlater _ => hrest later hlater)
  · intro e he later _ hgrants
    rw [h e he] at hgrants
    cases hgrants

/-! ## What every operation preserves -/

structure Kept (st : Session × (τ × List Event)) : Prop where
  asks : AsksBound (traffic st)
  opens : OpensUnbound (traffic st)
  linked : st.1.Linked → BoundAt (traffic st)
  unlinked : st.1 = {} → ∀ e ∈ traffic st, e.grants = false
  ended : st.1.disposed = true → st.1.connected = false

variable {server : Server} {before after : Session × (τ × List Event)} {outcome : Except Fault α}

theorem Kept.carried (h : Kept before) (hlinked : before.1.Linked) (hcarried : Carried before after) : Kept after := by
  obtain ⟨hafter, asked, hasked, hasks⟩ := hcarried
  have hopens : ∀ e ∈ asked, e.opens = false := fun e he => (Event.of_asks (hasks e he)).1
  have hbound := h.linked hlinked
  constructor
  case asks =>
    rw [hasked]
    refine h.asks.append (fun front e back hsplit _ => hbound.append (fun x hx => hopens x ?_))
    rw [hsplit]
    exact List.mem_append_left _ hx
  case opens =>
    rw [hasked]
    exact h.opens.append hopens
  case linked =>
    intro _
    rw [hasked]
    exact hbound.append hopens
  case unlinked =>
    intro hnone
    rw [hnone] at hafter
    cases hafter.1
  case ended =>
    intro hdisposed
    rw [hafter.2] at hdisposed
    cases hdisposed

theorem Kept.append_setup {events : List Event} {outcome : Except Fault Unit} (h : Kept before) (hnone : before.1 = {})
    (hsetup : Setup server events outcome) :
    AsksBound (traffic before ++ events) ∧ OpensUnbound (traffic before ++ events) := by
  refine ⟨h.asks.append_quiet hsetup.asks_eq_false, ?_⟩
  obtain ⟨up, rest, rfl, hrest⟩ := hsetup.eq_cons
  exact opensUnbound_append_opened (h.unlinked hnone) hrest

theorem Kept.step (h : Kept before) (hstep : Step server before outcome after) : Kept after := by
  cases hstep with
  | ended hdisposed => exact h
  | carried hlinked hcarried => exact h.carried hlinked hcarried
  | @failed hnone events fault hsetup s =>
    obtain ⟨hasks, hopens⟩ := h.append_setup hnone hsetup
    constructor
    case asks => exact hasks
    case opens => exact hopens
    case linked => exact fun hlinked => by cases hlinked.1
    case unlinked => exact fun _ => List.forall_mem_append.2 ⟨h.unlinked hnone, hsetup.of_error.1⟩
    case ended => exact fun _ => rfl
  | @connected hnone events hsetup s _ _ hcarried =>
    obtain ⟨hasks, hopens⟩ := h.append_setup hnone hsetup
    obtain ⟨rest, rfl, hrest⟩ := hsetup.of_ok.1
    -- Once the connection is set up, what is left is a step on a connection.
    refine Kept.carried ?_ ⟨rfl, rfl⟩ hcarried
    constructor
    case asks => exact hasks
    case opens => exact hopens
    case linked => exact fun _ => ⟨traffic before, rest, rfl, hrest⟩
    case unlinked => exact fun hempty => by cases hempty
    case ended => exact fun hdisposed => by cases hdisposed

theorem Kept.dispose (t : Transport τ) (h : Kept before) : Kept ((Session.dispose t.watched).exec before).2 := by
  obtain ⟨s, told, hexec, htold, -⟩ := exec_dispose_watched t before
  rw [hexec]
  constructor
  case asks =>
    refine h.asks.append_quiet (fun e he => ?_)
    rw [htold e he]
    rfl
  case opens =>
    refine h.opens.append (fun e he => ?_)
    rw [htold e he]
    rfl
  case linked => exact fun hlinked => by cases hlinked.1
  case unlinked => exact fun hempty => by cases hempty
  case ended => exact fun _ => rfl

theorem Kept.action (t : Transport τ) (server : Server) (h : Kept before) (o : Operation α) :
    Kept ((o.action t.watched server).exec before).2 := by
  by_cases hends : o.ends = true
  · cases o with
    | dispose => exact h.dispose t
    | _ => cases hends
  · exact h.step (step_action t server o (Bool.eq_false_iff.2 hends) before)

/-- What passes in one operation, and what it means for the outcome. -/
theorem Step.exists_events (h : Step server before outcome after) (hkept : Kept before) :
    ∃ events, traffic after = traffic before ++ events ∧
      ((∃ e ∈ events, e.fails = true) →
        after.1 = {} ∧ (∀ e ∈ traffic after, e.grants = false) ∧
          if events.any Event.denies then outcome = .error .authentication
          else ∃ cause, outcome = .error (.connection cause)) ∧
      (before.1.disposed = false → (∀ e ∈ traffic before, e.grants = false) →
        ∃ up rest, events = .opened up :: rest) ∧
      (before.1.disposed = true → events = [] ∧ outcome = .error (.invalidSettings .disposed)) := by
  have hsucceed {asked : List Event} (hasks : ∀ e ∈ asked, e.asks = true) : ¬ ∃ e ∈ asked, e.fails = true := by
    rintro ⟨e, he, hfails⟩
    rw [(Event.of_asks (hasks e he)).2] at hfails
    cases hfails
  have hafter : Kept after := hkept.step h
  cases h with
  | ended hdisposed =>
    refine ⟨[], (List.append_nil _).symm, fun hfails => ?_, fun hlive => ?_, fun _ => ⟨rfl, rfl⟩⟩
    · obtain ⟨e, he, -⟩ := hfails
      cases he
    · rw [hdisposed] at hlive
      cases hlive
  | @failed hempty events fault hsetup s =>
    obtain ⟨up, rest, hevents, -⟩ := hsetup.eq_cons
    refine ⟨events, rfl, fun _ => ⟨rfl, hafter.unlinked rfl, ?_⟩, fun _ _ => ⟨up, rest, hevents⟩, fun hdisposed => ?_⟩
    · have hfault := hsetup.of_error.2.2
      by_cases hdenies : events.any Event.denies = true
      · rw [if_pos hdenies] at hfault ⊢
        rw [hfault]
      · rw [if_neg hdenies] at hfault ⊢
        obtain ⟨cause, rfl⟩ := hfault
        exact ⟨cause, rfl⟩
    · rw [hempty] at hdisposed
      cases hdisposed
  | @connected hempty events hsetup s _ _ hcarried =>
    obtain ⟨-, asked, hasked, hasks⟩ := hcarried
    obtain ⟨⟨rest, hevents, -⟩, hgood⟩ := hsetup.of_ok
    have htraffic : traffic after = traffic before ++ (events ++ asked) := hasked.trans (List.append_assoc _ _ _)
    refine ⟨events ++ asked, htraffic, fun hfails => ?_, fun _ _ => ?_, fun hdisposed => ?_⟩
    · obtain ⟨e, he, hfails⟩ := hfails
      rcases List.mem_append.1 he with he | he
      · rw [hgood e he] at hfails
        cases hfails
      · exact absurd ⟨e, he, hfails⟩ (hsucceed hasks)
    · exact ⟨true, rest ++ asked, by rw [hevents, List.cons_append]⟩
    · rw [hempty] at hdisposed
      cases hdisposed
  | carried hlinked hcarried =>
    obtain ⟨-, asked, hasked, hasks⟩ := hcarried
    refine ⟨asked, hasked, fun hfails => absurd hfails (hsucceed hasks), fun _ hfree => ?_, fun hdisposed => ?_⟩
    · -- A connection means that a bind was granted.
      obtain ⟨e, he, hgrants⟩ := (hkept.linked hlinked).exists_grants
      rw [hfree e he] at hgrants
      cases hgrants
    · rw [hlinked.2] at hdisposed
      cases hdisposed

/-! ## Any number of operations -/

theorem Kept.afterAll (t : Transport τ) (server : Server) (h : Kept before)
    (ops : List (Σ α : Type, Operation α)) : Kept (afterAll t.watched server before ops) := by
  induction ops generalizing before with
  | nil => exact h
  | cons o ops ih => exact ih (h.action t server o.2)

theorem kept_start (start : τ) : Kept (({} : Session), (start, [])) where
  asks front e back hsplit _ := by cases front <;> cases hsplit
  opens := .nil
  linked hlinked := by cases hlinked.1
  unlinked _ e he := by cases he
  ended h := by cases h

theorem afterAll_disposed (t : Transport τ) (server : Server) (ops : List (Σ α : Type, Operation α))
    (st : Session × (τ × List Event)) :
    (Session.afterAll t.watched server st ops).1.disposed = (st.1.disposed || ops.any (fun o => o.2.ends)) := by
  induction ops generalizing st with
  | nil => exact (Bool.or_false _).symm
  | cons o ops ih =>
    have hdisposed : ((o.2.action t.watched server).exec st).2.1.disposed = (st.1.disposed || o.2.ends) := by
      by_cases hends : o.2.ends = true
      · obtain ⟨_, o⟩ := o
        cases o with
        | dispose => exact (Bool.or_true _).symm
        | _ => cases hends
      · rw [Bool.not_eq_true] at hends
        rw [hends, Bool.or_false]
        exact (step_action t server o.2 hends st).disposed_eq
    rw [List.any_cons, ← Bool.or_assoc, ← hdisposed]
    exact ih _

/-- **The life of a session.**  After any operations, one more is called on the session.

Watching changes nothing.  The directory is asked only on a connection on which a bind was granted, and none is opened
once one was.  An operation in which a connection does not come about has the fault that says so, nothing is granted and
nothing kept.  As long as nothing was granted an operation begins with a connection of its own; after `dispose` nothing
passes, and nothing but `dispose` succeeds. -/
theorem life_cycle (t : Transport τ) (server : Server) (start : τ) (ops : List (Σ α : Type, Operation α))
    (o : Operation α) :
    let closed := ops.any (fun p => p.2.ends)
    let before := Session.afterAll t.watched server ({}, (start, [])) ops
    let outcome := ((o.action t.watched server).exec before).1
    let after := ((o.action t.watched server).exec before).2
    (o.action t server).exec (Session.afterAll t server ({}, start) ops) = (outcome, unwatched after) ∧
      AsksBound (traffic after) ∧
      OpensUnbound (traffic after) ∧
      ∃ events, traffic after = traffic before ++ events ∧
        ((∃ e ∈ events, e.fails = true) →
          after.1 = {} ∧ (∀ e ∈ traffic after, e.grants = false) ∧
            if events.any Event.denies then outcome = .error .authentication
            else ∃ cause, outcome = .error (.connection cause)) ∧
        (closed = false → o.ends = false → (∀ e ∈ traffic before, e.grants = false) →
          ∃ up rest, events = .opened up :: rest) ∧
        (closed = true → events = [] ∧
          if o.ends then ∃ x, outcome = .ok x else outcome = .error (.invalidSettings .disposed)) := by
  intro closed before outcome after
  have hkept : Kept before := (kept_start start).afterAll t server ops
  have hafter : Kept after := hkept.action t server o
  have hclosed : before.1.disposed = closed := afterAll_disposed t server ops _
  refine ⟨?_, hafter.asks, hafter.opens, ?_⟩
  · rw [← exec_action_unwatched, ← afterAll_unwatched]
    rfl
  by_cases hends : o.ends = true
  · cases o with
    | dispose =>
      obtain ⟨s, told, hexec, htold, hnothing⟩ := exec_dispose_watched t before
      have htraffic : traffic after = traffic before ++ told := congrArg (fun r => traffic r.2) hexec
      refine ⟨told, htraffic, fun hfails => ?_, fun _ hlive => ?_, fun hdisposed => ?_⟩
      · obtain ⟨e, he, hfails⟩ := hfails
        rw [htold e he] at hfails
        cases hfails
      · cases hlive
      · refine ⟨hnothing (hkept.ended (hclosed.trans hdisposed)), ?_⟩
        rw [if_pos hends]
        exact ⟨(), congrArg Prod.fst hexec⟩
    | _ => cases hends
  · rw [Bool.not_eq_true] at hends
    have hstep : Step server before outcome after := step_action t server o hends before
    obtain ⟨events, hevents, hfails, hopened, hdisposed⟩ := hstep.exists_events hkept
    rw [hclosed] at hopened hdisposed
    refine ⟨events, hevents, hfails, fun hlive _ => hopened hlive, fun hclosed => ?_⟩
    rw [if_neg (by rw [hends]; exact Bool.false_ne_true)]
    exact hdisposed hclosed

/-- Wrong credentials at first: the next operation has a connection of its own, and the one after that uses it. -/
example :
    traffic (afterAll Script.transport.watched { host := "h", base := ⟨[]⟩, bindName := "cn=a" }
      ({}, ({ replies := [.respond { code := 49 }] }, [])) [⟨_, .unbind ⟨[]⟩⟩, ⟨_, .unbind ⟨[]⟩⟩, ⟨_, .unbind ⟨[]⟩⟩]) =
      [.opened true, .exchanged (.bind "cn=a" "") (some { code := 49 }),
        .opened true, .exchanged (.bind "cn=a" "") (some {}), .exchanged (.delete "") (some {}),
        .exchanged (.delete "") (some {})] := by decide

end Session
end DirectoryAccess
