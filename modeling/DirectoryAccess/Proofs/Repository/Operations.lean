import DirectoryAccess.Client.Recording
import DirectoryAccess.Proofs.Repository.Save
import DirectoryAccess.Proofs.Turns
/-!
# One entity at a time

Over any client an operation on one entity comes to one call at most.  It finds out a name first and goes on under it
(`Under`); without one, or where the root was asked for, it fails and does nothing.

So a recorded client has one call more on record, or none (`Recording.Logs`), and whatever a client keeps when a call
fails is kept when an operation fails (`Client.Spares`).
-/
namespace DirectoryAccess

variable {σ ε α β κ : Type}

/-! ## Clients -/

/-- Of what a client keeps, a call that fails leaves what is seen of it, and so does reading. -/
structure Client.Spares (c : Client σ) (kept : σ → κ) : Prop where
  create : ∀ {entry s fault s'}, (c.create entry).exec s = (.error fault, s') → kept s' = kept s
  update : ∀ {changes s fault s'}, (c.update changes).exec s = (.error fault, s') → kept s' = kept s
  unbind : ∀ {n s fault s'}, (c.unbind n).exec s = (.error fault, s') → kept s' = kept s
  lookup : ∀ n s, kept ((c.lookup n).exec s).2 = kept s

/-- A step that fails leaves what is seen of the state. -/
def SparesOnFault (kept : σ → κ) (step : α → Action σ β) : Prop :=
  ∀ a s fault s', (step a).exec s = (.error fault, s') → kept s' = kept s

namespace Store

theorem exec_ofUpdate_error {f : Store → Except Fault Store} {s s' : Store} {fault : Fault}
    (h : (Action.ofUpdate f).exec s = (.error fault, s')) : s' = s := by
  unfold Action.ofUpdate at h
  rw [Action.exec_ofStep] at h
  cases hf : f s with
  | ok after =>
    rw [hf] at h
    cases h
  | error fault' =>
    rw [hf] at h
    exact (Prod.mk.inj h).2.symm

theorem spares_entries : client.Spares entries where
  create := fun h => congrArg entries (exec_ofUpdate_error h)
  update := fun h => congrArg entries (exec_ofUpdate_error h)
  unbind := fun h => congrArg entries (exec_ofUpdate_error h)
  lookup := fun _ _ => rfl

end Store

namespace Recording

/-- The step for a member adds its call to the record, if it has one, whether it succeeds or not. -/
def Logs (step : α → Action (Recording σ) β) (call? : α → Option Call) : Prop :=
  ∀ a s, ((step a).exec s).2.calls = s.calls ++ (call? a).toList

/-- A recorded call fails as laid out, or does what was asked. -/
theorem exec_call_cases (c : Call) (a : Action σ α) (s : Recording σ) :
    (∃ fault faults, (call c a).exec s = (.error fault, { s with calls := s.calls ++ [c], faults })) ∨
      (call c a).exec s = ((a.exec s.inner).1, { s with calls := s.calls ++ [c], inner := (a.exec s.inner).2 }) := by
  unfold call
  rw [Action.exec_ofStep]
  dsimp only
  rcases s.faults with _ | ⟨⟨word, fault⟩, faults⟩
  · exact .inr rfl
  · dsimp only
    by_cases hword : word = c.word
    · rw [if_pos hword]
      exact .inl ⟨fault, faults, rfl⟩
    · rw [if_neg hword]
      exact .inr rfl

theorem calls_call (c : Call) (a : Action σ α) (s : Recording σ) : ((call c a).exec s).2.calls = s.calls ++ [c] := by
  rcases exec_call_cases c a s with ⟨fault, faults, h⟩ | h
  · rw [h]
  · rw [h]

theorem spares_call {kept : σ → κ} {a : Action σ α}
    (ha : ∀ {s fault s'}, a.exec s = (.error fault, s') → kept s' = kept s) {c : Call} {s s' : Recording σ}
    {fault : Fault} (h : (call c a).exec s = (.error fault, s')) : kept s'.inner = kept s.inner := by
  rcases exec_call_cases c a s with ⟨fault', faults, hcall⟩ | hcall
  · rw [hcall] at h
    obtain ⟨-, rfl⟩ := Prod.mk.inj h
    rfl
  · rw [hcall] at h
    obtain ⟨hfault, rfl⟩ := Prod.mk.inj h
    exact ha (Prod.ext hfault rfl)

/-- A client that is recorded keeps what it keeps. -/
theorem spares_client {c : Client σ} {kept : σ → κ} (h : c.Spares kept) (label : String) :
    (client label c).Spares (fun s => kept s.inner) where
  create := spares_call h.create
  update := spares_call h.update
  unbind := spares_call h.unbind
  lookup := fun n s => by
    rcases exec_call_cases ⟨"lookup", n⟩ (c.lookup n) s with ⟨fault, faults, hcall⟩ | hcall
    · show kept ((call ⟨"lookup", n⟩ (c.lookup n)).exec s).2.inner = kept s.inner
      rw [hcall]
    · show kept ((call ⟨"lookup", n⟩ (c.lookup n)).exec s).2.inner = kept s.inner
      rw [hcall]
      exact h.lookup n s.inner

end Recording

/-! ## Operations under a name -/

/-- The operation on a member finds out its name and goes on under it, or fails for want of one and does nothing. -/
def Under (target : α → Except Fault Name) (goOn : Name → α → Action σ β) (step : α → Action σ β) : Prop :=
  ∀ a s, (step a).exec s =
    match target a with
    | .error fault => (.error fault, s)
    | .ok n => (goOn n a).exec s

section

variable {target : α → Except Fault Name}

theorem under_of_bind (goOn : Name → α → Action σ β) :
    Under target goOn (fun a => Action.ofExcept (target a) >>= fun n => goOn n a) := by
  intro a s
  rw [Action.exec_bind, Action.exec_ofExcept]
  cases target a <;> rfl

theorem Under.sparesOnFault {goOn : Name → α → Action σ β} {step : α → Action σ β} (h : Under target goOn step)
    {kept : σ → κ} (hkept : ∀ n, SparesOnFault kept (goOn n)) : SparesOnFault kept step := by
  intro a s fault s' hfault
  rw [h a s] at hfault
  cases hname : target a with
  | error fault' =>
    rw [hname] at hfault
    rw [(Prod.mk.inj hfault).2]
  | ok n =>
    rw [hname] at hfault
    exact hkept n a s fault s' hfault

/-- What goes on under a name adds one call to the record, and without a name there is none. -/
theorem Under.logs {goOn : Name → α → Action (Recording σ) β} {step : α → Action (Recording σ) β}
    (h : Under target goOn step) {call : Name → α → Call}
    (hcalls : ∀ n a s, ((goOn n a).exec s).2.calls = s.calls ++ [call n a]) :
    Recording.Logs step (fun a => (target a).toOption.map (fun n => call n a)) := by
  intro a s
  dsimp only
  rw [h a s]
  cases target a with
  | error fault => exact (List.append_nil _).symm
  | ok n => exact hcalls n a s

end

/-! ## Repositories -/

/-- An id is its own name, unless it is the root. -/
def Name.asId (n : Name) : Except Fault Name := (Repository.requireId n).map (fun _ => n)

namespace Repository

variable (r : Repository σ ε)

/-- The call that saves an entity under a name. -/
def write (n : Name) (e : ε) : Action σ Unit :=
  if r.isNew e then r.client.create (r.mapping.entryOf (r.mapping.schema.setId n e) n)
  else r.client.update (r.mapping.changesOf e n)

/-- What the answer to looking up an id comes to: no entry is no fault. -/
def found (r : Repository σ ε) : Except Fault Entry → Except Fault (Option ε)
  | .ok entry => (r.mapping.schema.ofEntry entry).map some
  | .error (.notFound _) => .ok none
  | .error fault => .error fault

/-- Looks up a name. -/
def reading (n : Name) : Action σ (Option ε) := do
  let answer ← (r.client.lookup n).attempt
  Action.ofExcept (r.found answer)

theorem under_save : Under r.nameOf (fun n e => do let _ ← r.write n e; return r.named n e) r.save := by
  have hsave : r.save = fun e => Action.ofExcept (r.nameOf e) >>= fun n => do
      let _ ← r.write n e
      return r.named n e := by
    funext e
    unfold save write named
    congr 1
    funext n
    cases r.isNew e <;> rfl
  rw [hsave]
  exact under_of_bind _

theorem under_delete : Under r.nameOf (fun n _ => r.client.unbind n) r.delete := under_of_bind _

theorem under_deleteById : Under Name.asId (fun n _ => r.client.unbind n) r.deleteById := by
  intro n s
  unfold deleteById Name.asId
  rw [Action.exec_bind, Action.exec_ofExcept]
  cases requireId n <;> rfl

theorem exec_reading (n : Name) (s : σ) :
    (r.reading n).exec s = (r.found ((r.client.lookup n).exec s).1, ((r.client.lookup n).exec s).2) := rfl

theorem under_findById : Under Name.asId (fun n _ => r.reading n) r.findById := by
  intro n s
  unfold findById Name.asId
  rw [Action.exec_bind, Action.exec_ofExcept]
  cases requireId n with
  | error fault => rfl
  | ok _ =>
    dsimp only [Except.map]
    rw [Action.exec_bind, Action.exec_attempt, exec_reading]
    dsimp only
    rcases (r.client.lookup n).exec s with ⟨fault | entry, s'⟩
    · cases fault <;> rfl
    · dsimp only [found]
      rw [Action.exec_bind, Action.exec_ofExcept]
      cases r.mapping.schema.ofEntry entry <;> rfl

theorem exec_findById_of_client (n : Name) (s : σ) :
    (r.findById n).exec s =
      if n.isRoot then (.error (.invalidArgument .rootId), s)
      else (r.found ((r.client.lookup n).exec s).1, ((r.client.lookup n).exec s).2) := by
  rw [r.under_findById n s, Name.asId, requireId]
  cases n.isRoot <;> rfl

/-! ## What failing leaves -/

section

variable {r} {kept : σ → κ}

theorem sparesOnFault_save (h : r.client.Spares kept) : SparesOnFault kept r.save := by
  refine r.under_save.sparesOnFault (fun n e s fault s' hfault => ?_)
  rcases Action.exec_bind_eq_error_iff.1 hfault with hwrite | ⟨_, _, -, hreturn⟩
  · unfold write at hwrite
    split at hwrite
    · exact h.create hwrite
    · exact h.update hwrite
  · cases hreturn

theorem sparesOnFault_delete (h : r.client.Spares kept) : SparesOnFault kept r.delete :=
  r.under_delete.sparesOnFault (fun _ _ _ _ _ hfault => h.unbind hfault)

theorem sparesOnFault_deleteById (h : r.client.Spares kept) : SparesOnFault kept r.deleteById :=
  r.under_deleteById.sparesOnFault (fun _ _ _ _ _ hfault => h.unbind hfault)

theorem sparesOnFault_findById (h : r.client.Spares kept) : SparesOnFault kept r.findById := by
  refine r.under_findById.sparesOnFault (fun n _ s fault s' hfault => ?_)
  rw [exec_reading] at hfault
  rw [← (Prod.mk.inj hfault).2]
  exact h.lookup n s

end

/-! ## What is on record -/

/-- The call for an entity that is saved. -/
def savingCall? (e : ε) : Option Call :=
  (r.nameOf e).toOption.map (fun n => ⟨if r.isNew e then "create" else "update", n⟩)

/-- The call for an entity that is deleted. -/
def deletingCall? (e : ε) : Option Call := (r.nameOf e).toOption.map (fun n => ⟨"unbind", n⟩)

end Repository

/-- The call of this kind for an id. -/
def Name.idCall? (word : String) (n : Name) : Option Call := n.asId.toOption.map (fun n => ⟨word, n⟩)

namespace Repository

variable (c : Client σ) (label : String) (m : Mapping ε) (placement : Placement)

/-- A repository over a recorded client. -/
def recorded : Repository (Recording σ) ε := { client := Recording.client label c, mapping := m, placement }

theorem logs_save : Recording.Logs (recorded c label m placement).save (recorded c label m placement).savingCall? := by
  refine (recorded c label m placement).under_save.logs (fun n e s => ?_)
  have hwrite : (((recorded c label m placement).write n e).exec s).2.calls =
      s.calls ++ [⟨if (recorded c label m placement).isNew e then "create" else "update", n⟩] := by
    unfold write
    split
    · exact Recording.calls_call _ _ s
    · exact Recording.calls_call _ _ s
  rw [← hwrite, Action.exec_bind]
  rcases ((recorded c label m placement).write n e).exec s with ⟨_ | _, _⟩ <;> rfl

theorem logs_delete :
    Recording.Logs (recorded c label m placement).delete (recorded c label m placement).deletingCall? :=
  (recorded c label m placement).under_delete.logs (fun _ _ s => Recording.calls_call _ _ s)

theorem logs_deleteById : Recording.Logs (recorded c label m placement).deleteById (Name.idCall? "unbind") :=
  (recorded c label m placement).under_deleteById.logs (fun _ _ s => Recording.calls_call _ _ s)

theorem logs_findById : Recording.Logs (recorded c label m placement).findById (Name.idCall? "lookup") :=
  (recorded c label m placement).under_findById.logs (fun _ _ s => Recording.calls_call _ _ s)

end Repository
end DirectoryAccess
