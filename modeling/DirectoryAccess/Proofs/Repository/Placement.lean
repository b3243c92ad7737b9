import DirectoryAccess.Proofs.Outcome
import DirectoryAccess.Proofs.Repository.Searching
import Mathlib.Data.List.Basic
/-!
# Where a repository saves and where it looks

The two are settled apart.  A new entity is stored below the base of its mapping, whatever base was set for the
repository; a search starts at the base that was set, and at that of the mapping only where none was.  So a repository
finds what it has saved exactly if its own base covers the place (`findAll_after_save`): then the entity comes last in
every listing, and otherwise no listing shows it.

The classes are no obstacle: an entry that is written has them all (`restrict_selects_entryOf`).
-/
namespace DirectoryAccess

variable {ε : Type}

/-- The name that an entity is given, and that of the entry it is read from, is its name. -/
structure Schema.Named (s : Schema ε) : Prop where
  id_setId : ∀ n e, s.id? (s.setId n e) = some n
  id_ofEntry : ∀ entry e, s.ofEntry entry = .ok e → s.id? e = some entry.name

/-! ## Scopes -/

theorem Name.endsWith_child (n : Name) (type value : String) : (n.child type value).endsWith n = true := by
  have hdrop : (n.child type value).rdns.drop ((n.child type value).size - n.size) = n.rdns := by
    have hone : (n.child type value).size - n.size = 1 := by
      show n.rdns.length + 1 - n.rdns.length = 1
      omega
    rw [hone]
    rfl
  unfold Name.endsWith
  rw [hdrop]
  exact n.same_refl

/-- What is right below a base is in every scope for more than one entry. -/
theorem Store.inScope_child (base : Name) (type value : String) {scope : Scope} (h : scope ≠ .base) :
    Store.inScope (base.child type value) base scope = true := by
  cases scope with
  | base => exact absurd rfl h
  | oneLevel => exact base.same_refl
  | subtree => exact base.endsWith_child type value

/-! ## Classes -/

namespace Mapping

variable (m : Mapping ε)

theorem selects_restrict (criteria : Option Filter) (as : Attributes)
    (h : m.schema.classes.map (Filter.equals classAttribute) ++ criteria.toList ≠ []) :
    (m.restrict criteria).selects as =
      (m.schema.classes.map (Filter.equals classAttribute) ++ criteria.toList).all (·.selects as) := by
  unfold restrict
  split
  · rename_i hnone
    exact absurd hnone h
  · rename_i hone
    simp [hone]
  · exact Filter.selects_all _ as

theorem textsOf_entryOf (e : ε) (n : Name) :
    (m.entryOf e n).attributes.textsOf classAttribute = m.schema.classes := by
  have hvalue : (m.entryOf e n).attributes.find? classAttribute = some m.classesValue := by
    unfold entryOf
    rw [Attributes.find?_set, if_pos (Text.sameName_refl classAttribute)]
  unfold Attributes.textsOf
  rw [hvalue]
  show (Value.list _).texts = _
  rw [Value.texts_list, List.flatMap_map]
  exact List.flatMap_singleton' m.schema.classes

/-- An entry that was written is one of the entries of the mapping. -/
theorem restrict_selects_entryOf (h : m.schema.classes ≠ []) (e : ε) (n : Name) :
    (m.restrict none).selects (m.entryOf e n).attributes = true := by
  have hfilters : m.schema.classes.map (Filter.equals classAttribute) ++ (none : Option Filter).toList ≠ [] := by
    simpa using h
  rw [selects_restrict m none _ hfilters, List.all_eq_true]
  intro f hf
  rw [Option.toList_none, List.append_nil] at hf
  obtain ⟨cls, hcls, rfl⟩ := List.mem_map.1 hf
  have haccepts : Test.equals.accepts cls cls = true := beq_self_eq_true (Text.lower cls)
  unfold Filter.equals Filter.selects
  rw [textsOf_entryOf]
  exact List.any_eq_true.2 ⟨cls, hcls, haccepts⟩

end Mapping

/-! ## One entry more -/

/-- An entry that was put at the end is found last, or not at all. -/
theorem Store.matching_concat (s : Store) (entry : Entry) {q : Query} (h : q.limit = none) :
    ({ s with entries := s.entries ++ [entry] } : Store).matching q =
      s.matching q ++
        if inScope entry.name q.base q.scope && q.filter.selects entry.attributes then [entry.keep q.attributes]
        else [] := by
  rw [matching_eq, matching_eq, h]
  show (List.filter _ _).map _ = (List.filter _ _).map _ ++ _
  rw [List.filter_append, List.map_append, List.filter_singleton]
  cases inScope entry.name q.base q.scope && q.filter.selects entry.attributes <;> rfl

namespace Repository

variable {m : Mapping ε} {placement : Placement}

/-- Any scope but that of a single entry is a place for a repository. -/
theorem placed_eq_ok_iff {r : Repository Store ε} :
    placed Store.client m placement = .ok r ↔ placement.scope ≠ .base ∧ inMemory m placement = r := by
  unfold placed Placement.check
  by_cases hscope : placement.scope = .base
  · rw [if_pos hscope]
    exact ⟨fun h => (by cases h), fun h => absurd hscope h.1⟩
  · rw [if_neg hscope]
    exact ⟨fun h => ⟨hscope, Except.ok.inj h⟩, fun h => congrArg Except.ok h.2⟩

theorem exec_findAll {base : Name} (h : (inMemory m placement).searchBase = .ok base) (s : Store) :
    (inMemory m placement).findAll.exec s =
      ((s.matching (queryAt m placement base none [] none)).mapM m.schema.ofEntry,
        s.ask (queryAt m placement base none [] none)) := by
  unfold findAll
  rw [Action.exec_bind, exec_searchEntries h]
  rfl

theorem nameOf_of_no_id {e : ε} (h : m.id? e = none) : (inMemory m placement).nameOf e = m.nameFor e := by
  unfold nameOf
  rw [mapping_inMemory, h]

/-- **A new entity goes to the end**, in an entry of its own. -/
theorem entries_of_save_new {e : ε} (hcount : m.schema.isNew? e = none) (hid : m.id? e = none) {s after : Store}
    {saved : ε} (h : ((inMemory m placement).save e).exec s = (.ok saved, after)) :
    ∃ n, m.nameFor e = .ok n ∧ saved = m.schema.setId n e ∧
      after = { s with entries := s.entries ++ [m.entryOf saved n] } := by
  have hnew : (inMemory m placement).isNew e = true := by rw [isNew_of_no_count hcount, hid, Option.isNone_none]
  have hname : (inMemory m placement).nameOf e = m.nameFor e := nameOf_of_no_id hid
  cases hn : m.nameFor e with
  | error fault =>
    rw [hn] at hname
    rw [exec_save_of_unnamed m placement e s hname] at h
    cases h
  | ok n =>
    rw [hn] at hname
    have hwriting : writing m placement n e = Store.create (m.entryOf (m.schema.setId n e) n) := if_pos hnew
    rw [exec_save m placement e s hname, named_of_new n hnew, hwriting] at h
    cases hcreate : Store.create (m.entryOf (m.schema.setId n e) n) s with
    | error fault =>
      rw [hcreate] at h
      cases h
    | ok s' =>
      rw [hcreate] at h
      obtain ⟨hsaved, rfl⟩ := Prod.mk.inj h
      obtain rfl := Except.ok.inj hsaved
      exact ⟨n, rfl, rfl, (Store.create_eq_ok_iff.1 hcreate).2.2⟩

/-- Searches reach a new entity exactly if the base that was set covers its name, or none was set. -/
theorem inScope_nameFor {e : ε} {n base : Name} (hscope : placement.scope ≠ .base) (hn : m.nameFor e = .ok n)
    (hbase : (inMemory m placement).searchBase = .ok base) :
    Store.inScope n base placement.scope =
      (placement.base.isRoot || Store.inScope n placement.base placement.scope) := by
  rw [searchBase_inMemory] at hbase
  cases hroot : placement.base.isRoot with
  | true =>
    rw [hroot, if_pos rfl] at hbase
    obtain ⟨above, type, value, habove, rfl⟩ := exists_child_of_nameFor hn
    obtain rfl : above = base := Except.ok.inj (habove.symm.trans hbase)
    rw [Store.inScope_child above type value hscope, Bool.true_or]
  | false =>
    rw [hroot, if_neg (by simp)] at hbase
    rw [Except.ok.inj hbase, Bool.false_or]

/-- A search without criteria finds what it found before, and then the new entity, where it is looked for. -/
theorem matching_after_save (hclasses : m.schema.classes ≠ []) (hscope : placement.scope ≠ .base) {e : ε} {n base : Name}
    (hn : m.nameFor e = .ok n) (hbase : (inMemory m placement).searchBase = .ok base) (saved : ε) (s : Store)
    (attributes : List String) :
    ({ s with entries := s.entries ++ [m.entryOf saved n] } : Store).matching
        (queryAt m placement base none attributes none) =
      s.matching (queryAt m placement base none attributes none) ++
        if placement.base.isRoot || Store.inScope n placement.base placement.scope then
          [(m.entryOf saved n).keep attributes]
        else [] := by
  have hasked : (Store.inScope n base placement.scope && (m.restrict none).selects (m.entryOf saved n).attributes) =
      (placement.base.isRoot || Store.inScope n placement.base placement.scope) := by
    rw [m.restrict_selects_entryOf hclasses, Bool.and_true, inScope_nameFor hscope hn hbase]
  rw [← hasked]
  exact Store.matching_concat s (m.entryOf saved n) rfl

/-- **What a repository saves it finds exactly if its base covers the place.** -/
theorem findAll_after_save {r : Repository Store ε} (hplaced : placed Store.client m placement = .ok r)
    (hclasses : m.schema.classes ≠ []) {e : ε} (hcount : m.schema.isNew? e = none) (hid : m.id? e = none)
    {s after : Store} {saved : ε} (hsave : (r.save e).exec s = (.ok saved, after)) :
    ∃ n k, m.nameFor e = .ok n ∧ saved = m.schema.setId n e ∧
      after.entries = s.entries ++ [m.entryOf saved n] ∧ (r.count.exec s).1 = .ok k ∧
      if placement.base.isRoot || Store.inScope n placement.base placement.scope then
        (r.count.exec after).1 = .ok (k + 1) ∧
          (r.findAll.exec after).1 =
            (do
              let es ← (r.findAll.exec s).1
              let e' ← m.schema.ofEntry (m.entryOf saved n)
              return es ++ [e']) ∧
          (m.schema.Named → ∀ e', m.schema.ofEntry (m.entryOf saved n) = .ok e' →
            m.schema.id? e' = m.schema.id? saved)
      else
        (r.count.exec after).1 = .ok k ∧ (r.findAll.exec after).1 = (r.findAll.exec s).1 := by
  obtain ⟨hscope, rfl⟩ := placed_eq_ok_iff.1 hplaced
  obtain ⟨n, hn, hsaved, rfl⟩ := entries_of_save_new hcount hid hsave
  obtain ⟨above, _, _, habove, -⟩ := exists_child_of_nameFor hn
  obtain ⟨base, hbase⟩ : ∃ base, (inMemory m placement).searchBase = .ok base := exists_searchBase_of_mapping habove
  have hfound := matching_after_save hclasses hscope hn hbase saved s
  have hcounted := congrArg Prod.fst
    (exec_countMatching hbase none none { s with entries := s.entries ++ [m.entryOf saved n] })
  have hlisted := congrArg Prod.fst (exec_findAll hbase { s with entries := s.entries ++ [m.entryOf saved n] })
  have hlistedBefore := congrArg Prod.fst (exec_findAll hbase s)
  rw [hfound] at hcounted hlisted
  refine ⟨n, _, hn, hsaved, rfl, congrArg Prod.fst (exec_countMatching hbase none none s), ?_⟩
  by_cases hcovered : (placement.base.isRoot || Store.inScope n placement.base placement.scope) = true
  · rw [if_pos hcovered] at hcounted hlisted
    rw [if_pos hcovered]
    refine ⟨?_, ?_, fun hnamed e' he' => ?_⟩
    · rw [List.length_append] at hcounted
      exact hcounted
    · have hwhole : (m.entryOf saved n).keep [] = m.entryOf saved n := rfl
      rw [hwhole] at hlisted
      rw [hlisted, hlistedBefore, mapM_concat]
    · rw [hsaved] at he' ⊢
      rw [hnamed.id_setId, hnamed.id_ofEntry _ _ he']
      rfl
  · rw [if_neg hcovered, List.append_nil] at hcounted hlisted
    rw [if_neg hcovered]
    exact ⟨hcounted, hlisted.trans hlistedBefore.symm⟩

/-- Contacts below the people of a company. -/
def staff : Mapping Contact := ⟨contacts, ⟨[⟨"dc", "x"⟩]⟩⟩

theorem contacts_named : contacts.Named where
  id_setId := fun _ _ => rfl
  id_ofEntry := fun entry e h => by
    obtain rfl := Except.ok.inj h
    rfl

/-- Someone who is new. -/
def newcomer : Contact := ⟨none, "b", none⟩

/-- Where the newcomer is stored. -/
def newcomerName : Name := ⟨[⟨"cn", "b"⟩, ⟨"ou", "people"⟩, ⟨"dc", "x"⟩]⟩

theorem exec_save_newcomer (placement : Placement) : ((inMemory staff placement).save newcomer).exec (.ofEntries []) =
    (.ok { newcomer with name? := some newcomerName },
      .ofEntries [staff.entryOf { newcomer with name? := some newcomerName } newcomerName]) := by
  have hname : staff.nameFor newcomer = .ok newcomerName := by decide +kernel
  have hnameOf : (inMemory staff placement).nameOf newcomer = .ok newcomerName := (nameOf_of_no_id rfl).trans hname
  rw [exec_save staff placement newcomer _ hnameOf]
  rfl

/-- With a base above the place, whatever its spelling, the newcomer is found. -/
theorem findAll_after_save_newcomer :
    let r := inMemory staff { base := ⟨[⟨"DC", "X"⟩]⟩ }
    ∃ after, placed Store.client staff { base := ⟨[⟨"DC", "X"⟩]⟩ } = .ok r ∧
      (r.save newcomer).exec (.ofEntries []) = (.ok { newcomer with name? := some newcomerName }, after) ∧
      (r.count.exec after).1 = .ok 1 ∧
      (r.findAll.exec after).1 = .ok [{ newcomer with name? := some newcomerName }] := by
  intro r
  have hsave := exec_save_newcomer { base := ⟨[⟨"DC", "X"⟩]⟩ }
  obtain ⟨n, k, hn, -, -, hk, hafter⟩ := @findAll_after_save Contact staff { base := ⟨[⟨"DC", "X"⟩]⟩ } r rfl
    (by decide) newcomer rfl rfl _ _ _ hsave
  obtain rfl : n = newcomerName := Except.ok.inj (hn.symm.trans (by decide +kernel))
  obtain rfl : 0 = k := Except.ok.inj hk
  rw [if_pos (by decide)] at hafter
  exact ⟨_, rfl, hsave, hafter.1, hafter.2.1.trans rfl⟩

/-- A repository may be set to look elsewhere than it saves, and then does not find what it has just saved. -/
theorem not_findAll_after_save :
    ¬ ∀ (m : Mapping Contact) (placement : Placement) (r : Repository Store Contact) (e saved : Contact)
        (s after : Store), m.schema.Named → m.schema.classes ≠ [] → (∀ e, m.schema.isNew? e = none) →
      placed Store.client m placement = .ok r → m.schema.id? e = none →
      s.entries.Pairwise (fun x y => x.name.same y.name = false) →
      (r.save e).exec s = (.ok saved, after) →
      ∃ es es' k, (r.findAll.exec s).1 = .ok es ∧ (r.findAll.exec after).1 = .ok es' ∧
        es'.map m.schema.id? = es.map m.schema.id? ++ [m.schema.id? saved] ∧
        (r.count.exec s).1 = .ok k ∧ (r.count.exec after).1 = .ok (k + 1) := by
  intro h
  obtain ⟨es, es', k, -, -, -, hbefore, hafter⟩ := h staff { base := ⟨[⟨"ou", "teams"⟩, ⟨"dc", "x"⟩]⟩ } _ newcomer _
    (.ofEntries []) _ contacts_named (by decide) (fun _ => rfl) rfl rfl List.Pairwise.nil (exec_save_newcomer _)
  obtain rfl : 0 = k := Except.ok.inj hbefore
  have hnone : (0 : Nat) = 0 + 1 := Except.ok.inj hafter
  cases hnone

end Repository
end DirectoryAccess
