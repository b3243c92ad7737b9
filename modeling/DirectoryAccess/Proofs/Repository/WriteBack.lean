import DirectoryAccess.Proofs.Repository.Operations
/-!
# Writing back what was read

Some entities hold everything that is read but the classes, and give it again as it was (`Faithful`).  One that was just
found and is saved as it is goes back into its entry, and `save_of_findById` says what is then there: attributes that the
mapping does not know are as they were, those that it knows too, apart from nulls, which are removed, and the classes are
those of the schema.

So the entry comes out of it unchanged only if it had these classes and no other, in this order.  A class that an entry
has beside them is lost (`not_save_of_findById`), although it is nothing that the entity was asked to change.
-/
namespace DirectoryAccess

variable {ε : Type}

/-- The entity of an entry has its name, and all its attributes but the classes. -/
structure Schema.Faithful (s : Schema ε) : Prop where
  id_ofEntry : ∀ {entry e}, s.ofEntry entry = .ok e → s.id? e = some entry.name
  attributes_ofEntry : ∀ {entry e}, s.ofEntry entry = .ok e → s.attributes e = entry.attributes.erase classAttribute

theorem Name.isRoot_congr {a b : Name} (h : a.same b = true) : a.isRoot = b.isRoot := by
  have hkey : a.rdns.map Rdn.key = b.rdns.map Rdn.key := Name.same_iff_key.1 h
  have hempty := congrArg List.isEmpty hkey
  rw [List.isEmpty_map, List.isEmpty_map] at hempty
  exact hempty

namespace Repository

/-! ## Reading one entity -/

theorem exec_findById (m : Mapping ε) (placement : Placement) (n : Name) (s : Store) (hn : n.isRoot = false) :
    ((inMemory m placement).findById n).exec s =
      match s.find? n with
      | some entry => ((m.schema.ofEntry entry).map some, s)
      | none => (.ok none, s) := by
  have hlookup : ((inMemory m placement).client.lookup n).exec s = (Store.lookup n s, s) := rfl
  rw [exec_findById_of_client, if_neg (by simp [hn]), hlookup, Store.lookup]
  cases s.find? n <;> rfl

theorem isRoot_of_findById {m : Mapping ε} {placement : Placement} {n : Name} {s s' : Store} {found : Option ε}
    (h : ((inMemory m placement).findById n).exec s = (.ok found, s')) : n.isRoot = false := by
  cases hn : n.isRoot with
  | false => rfl
  | true =>
    rw [exec_findById_of_client, if_pos hn] at h
    cases h

/-- An entity is found in the entry of its name, and finding it changes nothing. -/
theorem findById_eq_some {m : Mapping ε} {placement : Placement} {n : Name} {s s' : Store} {e : ε}
    (h : ((inMemory m placement).findById n).exec s = (.ok (some e), s')) :
    s' = s ∧ n.isRoot = false ∧ ∃ entry, s.find? n = some entry ∧ m.schema.ofEntry entry = .ok e := by
  have hn := isRoot_of_findById h
  rw [exec_findById m placement n s hn] at h
  cases hfind : s.find? n with
  | none =>
    rw [hfind] at h
    cases h
  | some entry =>
    rw [hfind] at h
    obtain ⟨hok, hs⟩ := Prod.mk.inj h
    refine ⟨hs.symm, hn, entry, rfl, ?_⟩
    cases hentity : m.schema.ofEntry entry with
    | error fault =>
      rw [hentity] at hok
      cases hok
    | ok e' =>
      rw [hentity] at hok
      rw [Option.some.inj (Except.ok.inj hok)]

/-! ## Saving it -/

/-- What is left of attributes when the entity that was read from them is saved. -/
structure WrittenBack (m : Mapping ε) (before after : Attributes) : Prop where
  classes : after.find? classAttribute = some m.classesValue
  mapped : ∀ attr, Text.sameName classAttribute attr = false → m.schema.maps attr = true →
    after.find? attr = Schema.valueOf? before attr
  unmapped : ∀ attr, Text.sameName classAttribute attr = false → m.schema.maps attr = false →
    after.find? attr = before.find? attr

theorem valueOf?_erase {as : Attributes} {name attr : String} (h : Text.sameName name attr = false) :
    Schema.valueOf? (as.erase name) attr = Schema.valueOf? as attr := by
  rw [Schema.valueOf?, Schema.valueOf?, Attributes.find?_erase, h]
  rfl

theorem valueOf?_or_find? (as : Attributes) (attr : String) :
    (Schema.valueOf? as attr).or (as.find? attr) = as.find? attr := by
  unfold Schema.valueOf?
  cases as.find? attr with
  | none => rfl
  | some v => cases hnull : v.isNull <;> simp [Option.filter, hnull]

theorem writtenBack_of_erase {m : Mapping ε} {e : ε} {before : Attributes} (hdistinct : before.Distinct)
    (he : m.schema.attributes e = before.erase classAttribute) (n : Name) :
    WrittenBack m before (Store.writeAttributes before (m.changesOf e n).attributes) := by
  have hattributes : (m.schema.attributes e).Distinct := by
    rw [he]
    exact hdistinct.erase classAttribute
  have hfind := fun attr => m.find?_writeAttributes_changesOf hattributes n before attr
  constructor
  case classes =>
    rw [hfind, Text.sameName_refl, if_pos rfl]
  case mapped =>
    intro attr hclass hmaps
    rw [hfind, hclass, hmaps, he, valueOf?_erase hclass]
    simp
  case unmapped =>
    intro attr hclass hmaps
    rw [hfind, hclass, hmaps, he, valueOf?_erase hclass]
    exact valueOf?_or_find? before attr

/-- Nothing is different exactly if the classes are those of the schema and there is no null to remove. -/
theorem WrittenBack.find?_eq_iff {m : Mapping ε} {before after : Attributes} (h : WrittenBack m before after) :
    (∀ attr, after.find? attr = before.find? attr) ↔
      before.find? classAttribute = some m.classesValue ∧
        ∀ attr, m.schema.maps attr = true → before.find? attr ≠ some .null := by
  constructor
  · intro hsame
    have hclasses : before.find? classAttribute = some m.classesValue := (hsame classAttribute).symm.trans h.classes
    refine ⟨hclasses, fun attr hmaps hnull => ?_⟩
    cases hclass : Text.sameName classAttribute attr with
    | true =>
      rw [← Attributes.find?_congr _ hclass, hclasses] at hnull
      cases hnull
    | false =>
      have hvalue := h.mapped attr hclass hmaps
      rw [hsame attr, Schema.valueOf?, hnull] at hvalue
      cases hvalue
  · rintro ⟨hclasses, hnull⟩ attr
    cases hclass : Text.sameName classAttribute attr with
    | true => rw [← Attributes.find?_congr _ hclass, ← Attributes.find?_congr _ hclass, h.classes, hclasses]
    | false =>
      cases hmaps : m.schema.maps attr with
      | false => exact h.unmapped attr hclass hmaps
      | true =>
        rw [h.mapped attr hclass hmaps, Schema.valueOf?]
        cases hvalue : before.find? attr with
        | none => rfl
        | some v =>
          cases v with
          | null => exact absurd hvalue (hnull attr hmaps)
          | _ => rfl

/-- An entity that is not new is written onto the entry of its name. -/
theorem exec_save_onto {m : Mapping ε} (placement : Placement) {e : ε} {n : Name} {s : Store} {entry : Entry}
    (hid : m.id? e = some n) (hold : (inMemory m placement).isNew e = false) (hentry : s.find? n = some entry) :
    ∃ after, ((inMemory m placement).save e).exec s = (.ok e, after) ∧
      s.Places n (Store.written entry (m.changesOf e n).attributes) after := by
  obtain ⟨after, hupdate, hplaces⟩ := @Store.exists_update_of_find? s (m.changesOf e n) entry hentry
  refine ⟨after, ?_, hplaces⟩
  rw [exec_save_of_old m placement e s (nameOf_of_id? hid) hold, hupdate]
  rfl

/-- **What becomes of an entry whose entity is read and saved as it is.** -/
theorem save_of_findById {m : Mapping ε} (hm : m.schema.Faithful) {placement : Placement} {n : Name} {e : ε}
    {s s' : Store} (hdistinct : ∀ x ∈ s.entries, x.attributes.Distinct)
    (hfind : ((inMemory m placement).findById n).exec s = (.ok (some e), s'))
    (hold : (inMemory m placement).isNew e = false) :
    ∃ entry written after, s.find? n = some entry ∧
      ((inMemory m placement).save e).exec s' = (.ok e, after) ∧
      s.Places entry.name written after ∧ after.find? n = some written ∧ written.name = entry.name ∧
      WrittenBack m entry.attributes written.attributes ∧
      ((∀ attr, written.attributes.find? attr = entry.attributes.find? attr) ↔
        entry.attributes.find? classAttribute = some m.classesValue ∧
          ∀ attr, m.schema.maps attr = true → entry.attributes.find? attr ≠ some .null) := by
  obtain ⟨rfl, hn, entry, hentry, hentity⟩ := findById_eq_some hfind
  have hsame : entry.name.same n = true := (Store.find?_eq_some_iff.1 hentry).1
  have hat : s'.find? entry.name = some entry := (s'.find?_congr hsame).trans hentry
  have hid : m.id? e = some entry.name := by
    rw [Mapping.id?, hm.id_ofEntry hentity, Option.filter_some, Name.isRoot_congr hsame, hn]
    rfl
  have hback := writtenBack_of_erase (hdistinct entry (List.mem_of_find?_eq_some hentry))
    (hm.attributes_ofEntry hentity) entry.name
  obtain ⟨after, hsave, hplaces⟩ := exec_save_onto placement hid hold hat
  refine ⟨entry, _, after, hentry, hsave, hplaces, ?_, rfl, hback, hback.find?_eq_iff⟩
  rw [← after.find?_congr hsame]
  exact hplaces.find? (Name.same_refl entry.name)

/-- Entries themselves as entities, with nothing mapped but the name. -/
def verbatim : Schema Entry where
  typeName := "Entry"
  classes := ["person"]
  base := ""
  properties := [.id "name", .naming "common" "cn"]
  id? := fun e => some e.name
  setId := fun n e => { e with name := n }
  attributes := Entry.attributes
  ofEntry := fun e => .ok { e with attributes := e.attributes.erase classAttribute }

theorem verbatim_faithful : verbatim.Faithful where
  id_ofEntry := by
    rintro entry e h
    rw [← Except.ok.inj h]
    rfl
  attributes_ofEntry := by
    rintro entry e h
    rw [← Except.ok.inj h]
    rfl

/-- A person who is an account as well. -/
def account : Entry :=
  ⟨⟨[⟨"cn", "a"⟩]⟩, ⟨[("objectClass", .list [.text "person", .text "account"]), ("cn", .text "a"),
    ("uid", .text "a1")]⟩⟩

theorem distinct_account : ∀ x ∈ (Store.ofEntries [account]).entries, x.attributes.Distinct := by
  intro x hx
  rw [List.mem_singleton.1 hx]
  decide

/-- Read under another spelling of the name and saved, the account is a person only. -/
theorem save_of_findById_account : verbatim.Faithful ∧
    (∀ x ∈ (Store.ofEntries [account]).entries, x.attributes.Distinct) ∧
    ((inMemory ⟨verbatim, .root⟩ {}).findById ⟨[⟨"CN", "A"⟩]⟩).exec (.ofEntries [account]) =
      (.ok (some ⟨account.name, ⟨[("cn", .text "a"), ("uid", .text "a1")]⟩⟩), .ofEntries [account]) ∧
    ∃ written after,
      ((inMemory ⟨verbatim, .root⟩ {}).save ⟨account.name, ⟨[("cn", .text "a"), ("uid", .text "a1")]⟩⟩).exec
        (.ofEntries [account]) = (.ok ⟨account.name, ⟨[("cn", .text "a"), ("uid", .text "a1")]⟩⟩, after) ∧
      after.find? ⟨[⟨"CN", "A"⟩]⟩ = some written ∧
      WrittenBack ⟨verbatim, .root⟩ account.attributes written.attributes ∧
      ¬ ∀ attr, written.attributes.find? attr = account.attributes.find? attr := by
  refine ⟨verbatim_faithful, distinct_account, rfl, ?_⟩
  have h := @save_of_findById Entry ⟨verbatim, .root⟩ verbatim_faithful {} ⟨[⟨"CN", "A"⟩]⟩
    ⟨account.name, ⟨[("cn", .text "a"), ("uid", .text "a1")]⟩⟩ (.ofEntries [account]) (.ofEntries [account])
    distinct_account rfl rfl
  obtain ⟨entry, written, after, hentry, hsave, -, hafter, -, hback, hiff⟩ := h
  obtain rfl : account = entry := Option.some.inj hentry
  refine ⟨written, after, hsave, hafter, hback, fun hsame => ?_⟩
  have hclasses := (hiff.1 hsame).1
  exact absurd hclasses (by decide)

/-- Saving what was read is not the identity on an entry: a class that is not one of the schema is lost. -/
theorem not_save_of_findById :
    ¬ ∀ (m : Mapping Entry) (placement : Placement) (n : Name) (e : Entry) (s s' : Store), m.schema.Faithful →
      (∀ x ∈ s.entries, x.attributes.Distinct) → s.entries.Pairwise (fun x y => x.name.same y.name = false) →
      ((inMemory m placement).findById n).exec s = (.ok (some e), s') → (inMemory m placement).isNew e = false →
      ∃ after, ((inMemory m placement).save e).exec s' = (.ok e, after) ∧
        ∀ attr, (after.find? n).bind (·.attributes.find? attr) = (s.find? n).bind (·.attributes.find? attr) := by
  intro h
  obtain ⟨after, hsave, hsame⟩ := h ⟨verbatim, .root⟩ {} account.name
    ⟨account.name, ⟨[("cn", .text "a"), ("uid", .text "a1")]⟩⟩ (.ofEntries [account]) (.ofEntries [account])
    verbatim_faithful distinct_account (List.pairwise_singleton _ _) rfl rfl
  obtain rfl := (Prod.mk.inj hsave).2
  exact absurd (hsame classAttribute) (by decide +kernel)

end Repository
end DirectoryAccess
