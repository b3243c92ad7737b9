import DirectoryAccess.Proofs.Repository.Operations
import DirectoryAccess.Proofs.Repository.WriteBack
import DirectoryAccess.Proofs.Turns
import Mathlib.Data.List.ReduceOption
/-!
# Batches

Saving, removing and looking up many takes one operation for each member, in order, and ends with the first that fails
(`Stopping`).  This holds over any client, so it does not matter why the member fails: another one before it may have
taken the name, or removed the entry.

What was done before the fault stays done and nothing is done after it.  Over a recorded client that is to be read off the
record (`Prefixed`): it goes on with the calls for the members in front and the one for the member that failed, if that
came to a call at all, and what the client keeps is as the members in front left it.
-/
namespace DirectoryAccess

variable {σ ε α β γ κ : Type}

/-! ## The record of a batch -/

namespace Recording

/-- The record holds the calls for all members, or for those up to the first that fails; that one leaves what is kept as
those in front of it left it. -/
structure Prefixed (kept : σ → κ) (step : α → Action (Recording σ) β) (call? : α → Option Call)
    (batch : List α → Action (Recording σ) γ) : Prop where
  of_ok : ∀ {as : List α} {s s' : Recording σ} {c : γ},
    (batch as).exec s = (.ok c, s') → s'.calls = s.calls ++ as.filterMap call?
  of_error : ∀ {as : List α} {s s'' : Recording σ} {fault : Fault}, (batch as).exec s = (.error fault, s'') →
    ∃ front a back bs s', as = front ++ a :: back ∧ InTurn step s front bs s' ∧
      (step a).exec s' = (.error fault, s'') ∧ kept s''.inner = kept s'.inner ∧
      s''.calls = s.calls ++ (front ++ [a]).filterMap call?

variable {step : α → Action (Recording σ) β} {call? : α → Option Call}

theorem Logs.calls_of_exec (h : Logs step call?) {a : α} {s s' : Recording σ} {result : Except Fault β}
    (ha : (step a).exec s = (result, s')) : s'.calls = s.calls ++ [a].filterMap call? := by
  have hcalls := h a s
  rw [ha] at hcalls
  rw [hcalls, List.filterMap_cons, List.filterMap_nil]
  cases call? a <;> rfl

theorem Logs.calls_of_inTurn (h : Logs step call?) {as : List α} {bs : List β} {s s' : Recording σ}
    (has : InTurn step s as bs s') : s'.calls = s.calls ++ as.filterMap call? := by
  induction has with
  | done s => exact (List.append_nil _).symm
  | next ha _ ih => rw [ih, h.calls_of_exec ha, List.append_assoc, ← List.filterMap_append, List.singleton_append]

theorem Logs.prefixed (h : Logs step call?) {kept : σ → κ} (hkept : SparesOnFault (fun s => kept s.inner) step)
    {result : List β → γ} {batch : List α → Action (Recording σ) γ} (hbatch : StopsAtFirst step result batch) :
    Prefixed kept step call? batch where
  of_ok := by
    intro as s s' c hok
    obtain ⟨bs, hbs, -⟩ := hbatch.ok_iff.1 hok
    exact h.calls_of_inTurn hbs
  of_error := by
    intro as s s'' fault herror
    obtain ⟨front, a, back, bs, s', has, hfront, ha⟩ := hbatch.error_iff.1 herror
    refine ⟨front, a, back, bs, s', has, hfront, ha, hkept a s' fault s'' ha, ?_⟩
    rw [h.calls_of_exec ha, h.calls_of_inTurn hfront, List.filterMap_append, List.append_assoc]

end Recording

namespace Repository

/-! ## Batches over any client -/

/-- The batches, each with the operation that it takes for a member and what it makes of the results. -/
structure Stopping (r : Repository σ ε) : Prop where
  saveAll : StopsAtFirst r.save id r.saveAll
  deleteEntities : StopsAtFirst r.delete (fun _ => ()) r.deleteEntities
  deleteAllById : StopsAtFirst r.deleteById (fun _ => ()) r.deleteAllById
  findAllById : StopsAtFirst r.findById List.reduceOption r.findAllById

theorem reduceOption_cons (found : Option α) (others : List (Option α)) :
    (found :: others).reduceOption = found.toList ++ others.reduceOption := by
  cases found with
  | none => exact List.reduceOption_cons_of_none others
  | some a => exact List.reduceOption_cons_of_some a others

theorem stopping (r : Repository σ ε) : r.Stopping where
  saveAll := stopsAtFirst_of_cons List.cons (fun _ _ => rfl) rfl (fun _ _ => rfl)
  deleteEntities := stopsAtFirst_of_seq rfl (fun _ _ => rfl)
  deleteAllById := stopsAtFirst_of_seq rfl (fun _ _ => rfl)
  findAllById := stopsAtFirst_of_cons (fun found others => found.toList ++ others) reduceOption_cons rfl
    (fun _ _ => rfl)

/-- The root is refused where it comes up, as the state then is; no id behind it is looked up. -/
theorem exec_findAllById_of_root (r : Repository σ ε) {front back : List Name} {root : Name} {s s' : σ}
    {found : List (Option ε)} (hfront : InTurn r.findById s front found s') (hroot : root.isRoot = true) :
    (r.findAllById (front ++ root :: back)).exec s = (.error (.invalidArgument .rootId), s') := by
  refine r.stopping.findAllById.error_iff.2 ⟨front, root, back, found, s', rfl, hfront, ?_⟩
  rw [exec_findById_of_client, if_pos hroot]

/-! ## Batches over recorded clients -/

/-- The batches and what is on record of them. -/
structure Prefixing (kept : σ → κ) (r : Repository (Recording σ) ε) : Prop where
  saveAll : Recording.Prefixed kept r.save r.savingCall? r.saveAll
  deleteEntities : Recording.Prefixed kept r.delete r.deletingCall? r.deleteEntities
  deleteAllById : Recording.Prefixed kept r.deleteById (Name.idCall? "unbind") r.deleteAllById
  findAllById : Recording.Prefixed kept r.findById (Name.idCall? "lookup") r.findAllById

section

variable (m : Mapping ε) (placement : Placement)

theorem prefixing_recorded {c : Client σ} {kept : σ → κ} (hc : c.Spares kept) (label : String) :
    (recorded c label m placement).Prefixing kept := by
  have hspares := Recording.spares_client hc label
  have hstopping := (recorded c label m placement).stopping
  constructor
  case saveAll =>
    exact (logs_save c label m placement).prefixed (sparesOnFault_save hspares) hstopping.saveAll
  case deleteEntities =>
    exact (logs_delete c label m placement).prefixed (sparesOnFault_delete hspares) hstopping.deleteEntities
  case deleteAllById =>
    exact (logs_deleteById c label m placement).prefixed (sparesOnFault_deleteById hspares) hstopping.deleteAllById
  case findAllById =>
    exact (logs_findById c label m placement).prefixed (sparesOnFault_findById hspares) hstopping.findAllById

/-! ## Looking up in the store -/

/-- What is there is found as often as its id comes up, and what is not is left out. -/
theorem exec_findAllById (s : Store) {ns : List Name} (h : ∀ n ∈ ns, n.isRoot = false) :
    ((inMemory m placement).findAllById ns).exec s =
      ((inMemory m placement).entitiesOf (ns.filterMap s.find?), s) := by
  induction ns with
  | nil => rfl
  | cons n ns ih =>
    have hn := exec_findById m placement n s (h n List.mem_cons_self)
    have hns := ih (fun k hk => h k (List.mem_cons_of_mem n hk))
    rw [findAllById, Action.exec_bind, hn]
    cases hfind : s.find? n with
    | none =>
      rw [List.filterMap_cons_none hfind, ← hns]
      dsimp only
      rw [Action.exec_bind, hns]
      cases (inMemory m placement).entitiesOf (ns.filterMap s.find?) <;> rfl
    | some entry =>
      have hentities : (inMemory m placement).entitiesOf (entry :: ns.filterMap s.find?) = do
          let e ← m.schema.ofEntry entry
          let es ← (inMemory m placement).entitiesOf (ns.filterMap s.find?)
          return e :: es := List.mapM_cons
      rw [List.filterMap_cons_some hfind, hentities]
      dsimp only
      cases m.schema.ofEntry entry with
      | error fault => rfl
      | ok e =>
        dsimp only [Except.map]
        rw [Action.exec_bind, hns]
        cases (inMemory m placement).entitiesOf (ns.filterMap s.find?) <;> rfl

/-- **A batch ends with the first fault**, over any client.  Over a recorded one what is on record ends there too, and a
fault changes nothing that the client keeps, as the store keeps its entries. -/
theorem batches_stop_at_first_fault :
    (∀ {σ : Type} (c : Client σ),
      (Repository.mk c m placement).Stopping ∧
        ∀ {front back : List Name} {root : Name} {s s' : σ} {found : List (Option ε)},
          InTurn (Repository.mk c m placement).findById s front found s' → root.isRoot = true →
            ((Repository.mk c m placement).findAllById (front ++ root :: back)).exec s =
              (.error (.invalidArgument .rootId), s')) ∧
    (∀ {σ κ : Type} {c : Client σ} {kept : σ → κ}, c.Spares kept → ∀ label,
      (recorded c label m placement).Prefixing kept) ∧
    Store.client.Spares Store.entries ∧
    ∀ (s : Store) {ns : List Name}, (∀ n ∈ ns, n.isRoot = false) →
      ((inMemory m placement).findAllById ns).exec s =
        ((inMemory m placement).entitiesOf (ns.filterMap s.find?), s) :=
  ⟨fun _ => ⟨stopping _, exec_findAllById_of_root _⟩, fun hc => prefixing_recorded m placement hc,
    Store.spares_entries, exec_findAllById m placement⟩

end

/-- One of these people, the same under another spelling, and the other one. -/
def leavers : List Contact :=
  [⟨some ⟨[⟨"cn", "C"⟩]⟩, "c", none⟩, ⟨some ⟨[⟨"cn", "c"⟩]⟩, "c", none⟩, ⟨some ⟨[⟨"cn", "b"⟩]⟩, "b", none⟩]

/-- Who was removed just before cannot be removed again, and who comes after stays.  Looking up ends at the root. -/
theorem batches_of_leavers : ∃ after front e back done before,
    ((recorded Store.client "people" ⟨contacts, .root⟩ {}).deleteEntities leavers).exec { inner := people } =
      (.error (.notFound ⟨[⟨"cn", "c"⟩]⟩), after) ∧
    leavers = front ++ e :: back ∧
    InTurn (recorded Store.client "people" ⟨contacts, .root⟩ {}).delete { inner := people } front done before ∧
    after.inner.entries = before.inner.entries ∧
    after.calls = [⟨"unbind", ⟨[⟨"cn", "C"⟩]⟩⟩, ⟨"unbind", ⟨[⟨"cn", "c"⟩]⟩⟩] ∧
    ((inMemory ⟨contacts, .root⟩ {}).findAllById [⟨[⟨"cn", "c"⟩]⟩, .root, ⟨[⟨"cn", "b"⟩]⟩]).exec people =
      (.error (.invalidArgument .rootId), people) ∧
    ((inMemory ⟨contacts, .root⟩ {}).findAllById [⟨[⟨"cn", "c"⟩]⟩, ⟨[⟨"cn", "x"⟩]⟩, ⟨[⟨"CN", "C"⟩]⟩]).exec people =
      (.ok [⟨some ⟨[⟨"cn", "c"⟩]⟩, "c", none⟩, ⟨some ⟨[⟨"cn", "c"⟩]⟩, "c", none⟩], people) := by
  obtain ⟨hany, hrecorded, hstore, hfound⟩ := @batches_stop_at_first_fault Contact ⟨contacts, .root⟩ {}
  have hfault : ((recorded Store.client "people" ⟨contacts, .root⟩ {}).deleteEntities leavers).exec
      { inner := people } = (.error (.notFound ⟨[⟨"cn", "c"⟩]⟩), _) := rfl
  obtain ⟨front, e, back, done, before, hmembers, hfront, -, hkept, -⟩ :=
    (hrecorded hstore "people").deleteEntities.of_error hfault
  refine ⟨_, front, e, back, done, before, hfault, hmembers, hfront, hkept, rfl, ?_, ?_⟩
  · have hlookup : InTurn (inMemory ⟨contacts, .root⟩ {}).findById people [⟨[⟨"cn", "c"⟩]⟩] _ people :=
      .next rfl (.done people)
    exact (hany Store.client).2 hlookup rfl
  · exact hfound people (by decide)

end Repository
end DirectoryAccess
