import DirectoryAccess.Proofs.Repository.Operations
import DirectoryAccess.Proofs.Repository.Placement
import DirectoryAccess.Proofs.Store.History
import Mathlib.Data.List.Forall2
import Mathlib.Data.List.Pairwise
/-!
# Emptying a repository

`deleteAll` lists all entities first and then removes them one by one, each by its name, from the directory that the
list was made of.  No removal takes the entry of another one along, because no two entries have one name, and none comes
too late, because every name on the list is still there when its turn comes (`exec_deleteEntities`).

So what is left is what the listing did not show, in its old order: the entries out of scope and those of other classes
(`deleteAll_leaves_rest`).
-/
namespace DirectoryAccess

variable {ε α β : Type}

/-- Every entry is an entity, and the entity has its name. -/
def Schema.ReadsAll (s : Schema ε) : Prop := ∀ entry, ∃ e, s.ofEntry entry = .ok e ∧ s.id? e = some entry.name

/-- Where every step succeeds, so does the row of them, and each result stands to its member as it does alone. -/
theorem exists_mapM_of_forall {f : α → Except ε β} {P : α → β → Prop} (h : ∀ a, ∃ b, f a = .ok b ∧ P a b) :
    ∀ as : List α, ∃ bs, as.mapM f = .ok bs ∧ List.Forall₂ P as bs
  | [] => ⟨[], rfl, .nil⟩
  | a :: as => by
    obtain ⟨b, hb, hP⟩ := h a
    obtain ⟨bs, hbs, hall⟩ := exists_mapM_of_forall h as
    refine ⟨b :: bs, ?_, .cons hP hall⟩
    rw [List.mapM_cons, hb, hbs]
    rfl

/-! ## Entries with names of their own -/

theorem Name.not_same_symm {a b : Name} (h : a.same b = false) : b.same a = false := by
  rw [Bool.eq_false_iff] at h ⊢
  exact fun hsame => h (same_symm hsame)

namespace Store

theorem eq_of_same {entries : List Entry} (h : entries.Pairwise (fun x y => x.name.same y.name = false)) {x y : Entry}
    (hx : x ∈ entries) (hy : y ∈ entries) (hsame : x.name.same y.name = true) : x = y := by
  have hsymm : Std.Symm (fun x y : Entry => x.name.same y.name = false) := ⟨fun _ _ => Name.not_same_symm⟩
  by_contra hne
  have hdiffer : x.name.same y.name = false := h.forall hx hy hne
  rw [hsame] at hdiffer
  cases hdiffer

theorem dropFirst_eq_filter (n : Name) : ∀ {entries : List Entry},
    entries.Pairwise (fun x y => x.name.same y.name = false) →
      dropFirst n entries = entries.filter (fun e => !e.name.same n)
  | [], _ => rfl
  | e :: entries, h => by
    obtain ⟨hfirst, hrest⟩ := List.pairwise_cons.1 h
    rw [dropFirst]
    by_cases he : e.name.same n = true
    · -- The first has the name, so no later one does.
      have hall : ∀ x ∈ entries, (!x.name.same n) = true := by
        intro x hx
        have hdiffer : e.name.same x.name = false := hfirst x hx
        rw [Bool.not_eq_true', Bool.eq_false_iff]
        intro hxn
        rw [Name.same_trans he (Name.same_symm hxn)] at hdiffer
        cases hdiffer
      rw [if_pos he, List.filter_cons_of_neg (by simp [he]), List.filter_eq_self.2 hall]
    · rw [if_neg he, List.filter_cons_of_pos (by simp [he]), dropFirst_eq_filter n hrest]

/-- The entries but for those that have the name of one of `gone`. -/
def without (entries gone : List Entry) : List Entry := entries.filter (fun e => !gone.any (fun g => e.name.same g.name))

theorem without_nil (entries : List Entry) : without entries [] = entries := List.filter_eq_self.2 (fun _ _ => rfl)

theorem without_cons (entries gone : List Entry) (g : Entry) :
    without entries (g :: gone) = without (entries.filter (fun e => !e.name.same g.name)) gone := by
  unfold without
  rw [List.filter_filter]
  refine List.filter_congr (fun e _ => ?_)
  rw [List.any_cons, Bool.not_or, Bool.and_comm]

/-- Taking out some of the entries by name leaves the others. -/
theorem without_filter {entries : List Entry} (h : entries.Pairwise (fun x y => x.name.same y.name = false))
    (p : Entry → Bool) : without entries (entries.filter p) = entries.filter (fun e => !p e) := by
  unfold without
  refine List.filter_congr (fun e he => congrArg Bool.not ?_)
  cases hp : p e with
  | true => exact List.any_eq_true.2 ⟨e, List.mem_filter.2 ⟨he, hp⟩, Name.same_refl e.name⟩
  | false =>
    refine List.any_eq_false.2 (fun g hg hsame => ?_)
    obtain ⟨hmem, hpg⟩ := List.mem_filter.1 hg
    obtain rfl : e = g := eq_of_same h he hmem hsame
    rw [hp] at hpg
    cases hpg

/-- A search without limit and for all attributes gives the entries as they are. -/
theorem matching_whole (s : Store) {q : Query} (hlimit : q.limit = none) (hattributes : q.attributes = []) :
    s.matching q = s.selected q := by
  rw [matching_eq, hlimit, hattributes]
  exact List.map_id (s.selected q)

end Store

namespace Repository

variable {m : Mapping ε} {placement : Placement}

/-! ## Removing one entity -/

theorem exec_delete {e : ε} {n : Name} (h : m.id? e = some n) (s : Store) :
    ((inMemory m placement).delete e).exec s = (Store.client.unbind n).exec s := by
  rw [(inMemory m placement).under_delete e s, nameOf_of_id? h]
  rfl

theorem exec_delete_of_mem {entry : Entry} {e : ε} (hid : m.id? e = some entry.name) {s : Store}
    (hapart : s.entries.Pairwise (fun x y => x.name.same y.name = false)) (hmem : entry ∈ s.entries) :
    ((inMemory m placement).delete e).exec s =
      (.ok (), { s with entries := s.entries.filter (fun x => !x.name.same entry.name) }) := by
  have hholds : s.holds entry.name = true := (s.holds_iff entry.name).2 ⟨entry, hmem, Name.same_refl entry.name⟩
  rw [exec_delete hid, Store.exec_unbind, if_pos hholds, Store.dropFirst_eq_filter _ hapart]

/-! ## Removing many -/

/-- **Entities are removed from under their names**, one after another, and nothing else is. -/
theorem exec_deleteEntities {found : List Entry} {es : List ε}
    (hids : List.Forall₂ (fun entry e => m.id? e = some entry.name) found es)
    (hfound : found.Pairwise (fun x y => x.name.same y.name = false)) {s : Store}
    (hapart : s.entries.Pairwise (fun x y => x.name.same y.name = false)) (hmem : ∀ entry ∈ found, entry ∈ s.entries) :
    ((inMemory m placement).deleteEntities es).exec s =
      (.ok (), { s with entries := Store.without s.entries found }) := by
  induction hids generalizing s with
  | nil =>
    rw [Store.without_nil]
    rfl
  | @cons entry e found es hid _ ih =>
    obtain ⟨hfirst, hrest⟩ := List.pairwise_cons.1 hfound
    have hhead : entry ∈ s.entries := hmem entry List.mem_cons_self
    -- The names on the rest of the list are still there.
    have hleft : ∀ x ∈ found, x ∈ s.entries.filter (fun y => !y.name.same entry.name) := by
      intro x hx
      have hdiffer : x.name.same entry.name = false := Name.not_same_symm (hfirst x hx)
      exact List.mem_filter.2 ⟨hmem x (List.mem_cons_of_mem entry hx), by simp [hdiffer]⟩
    have hnext := @ih hrest { s with entries := s.entries.filter (fun y => !y.name.same entry.name) }
      (hapart.filter _) hleft
    rw [deleteEntities, Action.exec_bind, exec_delete_of_mem hid hapart hhead, Store.without_cons]
    exact hnext

/-! ## Removing all -/

theorem id?_of_schema {e : ε} {n : Name} (h : m.schema.id? e = some n) (hroot : n.isRoot = false) :
    m.id? e = some n := by
  rw [Mapping.id?, h, Option.filter_some, hroot]
  rfl

theorem exec_deleteAll {base : Name} (hbase : (inMemory m placement).searchBase = .ok base)
    (hread : m.schema.ReadsAll) {s : Store}
    (hapart : s.entries.Pairwise (fun x y => x.name.same y.name = false))
    (hroot : ∀ e ∈ s.entries, e.name.isRoot = false) :
    (inMemory m placement).deleteAll.exec s =
      (.ok (), { s.ask (queryAt m placement base none [] none) with
        entries := s.entries.filter (fun e =>
          !(Store.inScope e.name base placement.scope && (m.restrict none).selects e.attributes)) }) := by
  let q := queryAt m placement base none [] none
  obtain ⟨es, hes, hids⟩ := exists_mapM_of_forall hread (s.selected q)
  have hlisted : (inMemory m placement).findAll.exec s = (.ok es, s.ask q) := by
    rw [exec_findAll hbase, s.matching_whole rfl rfl, hes]
  have hmem : ∀ entry ∈ s.selected q, entry ∈ s.entries := fun entry h => (List.mem_filter.1 h).1
  have hnamed : List.Forall₂ (fun entry e => m.id? e = some entry.name) (s.selected q) es := by
    refine (List.forall₂_iff_zip.2 ⟨hids.length_eq, fun {entry e} hzip => ?_⟩)
    have hid : m.schema.id? e = some entry.name := (List.forall₂_iff_zip.1 hids).2 hzip
    exact id?_of_schema hid (hroot entry (hmem entry (List.of_mem_zip hzip).1))
  have hremoved := @exec_deleteEntities ε m placement _ _ hnamed (hapart.filter _) (s.ask q) hapart hmem
  have hleft : Store.without s.entries (s.selected q) = s.entries.filter (fun e =>
      !(Store.inScope e.name base placement.scope && (m.restrict none).selects e.attributes)) :=
    Store.without_filter hapart _
  unfold deleteAll
  rw [Action.exec_bind, hlisted]
  dsimp only
  rw [hremoved, Store.entries_ask, hleft]

/-- **Emptying a repository leaves what it does not show**, and nothing else. -/
theorem deleteAll_leaves_rest {r : Repository Store ε} (hplaced : placed Store.client m placement = .ok r)
    {relative : Name} (hrelative : Name.read m.schema.base = .ok relative) (hread : m.schema.ReadsAll) {s : Store}
    (hapart : s.entries.Pairwise (fun x y => x.name.same y.name = false))
    (hroot : ∀ e ∈ s.entries, e.name.isRoot = false) :
    let base := if placement.base.isRoot then relative.append m.base else placement.base
    ∃ after, r.deleteAll.exec s = (.ok (), after) ∧
      after.asked =
        s.asked ++ [{ base, scope := placement.scope, filter := m.restrict none, attributes := [], limit := none }] ∧
      after.entries = s.entries.filter (fun e =>
        !(Store.inScope e.name base placement.scope && (m.restrict none).selects e.attributes)) ∧
      (r.count.exec after).1 = .ok 0 ∧ (r.findAll.exec after).1 = .ok [] := by
  intro base
  obtain ⟨-, rfl⟩ := placed_eq_ok_iff.1 hplaced
  have hbase : (inMemory m placement).searchBase = .ok base := by
    have hmapping : m.searchBase = .ok (relative.append m.base) := by rw [Mapping.searchBase, hrelative]
    rw [searchBase_inMemory, hmapping]
    exact (apply_ite Except.ok _ _ _).symm
  refine ⟨_, exec_deleteAll hbase hread hapart hroot, rfl, rfl, ?_⟩
  generalize hafter : ({ s.ask (queryAt m placement base none [] none) with
    entries := s.entries.filter (fun e =>
      !(Store.inScope e.name base placement.scope && (m.restrict none).selects e.attributes)) } : Store) = after
  -- Whatever attributes are asked for, nothing that is left is in scope and of these classes.
  have hnone (attributes : List String) : after.selected (queryAt m placement base none attributes none) = [] := by
    subst hafter
    refine List.filter_eq_nil_iff.2 (fun e he hasked => ?_)
    have hout := (List.mem_filter.1 he).2
    rw [Bool.not_eq_true'] at hout
    exact Bool.eq_false_iff.1 hout hasked
  constructor
  · have hcounted := congrArg Prod.fst (exec_countMatching hbase none none after)
    rw [Store.length_matching after rfl, hnone] at hcounted
    exact hcounted
  · have hlisted := congrArg Prod.fst (exec_findAll hbase after)
    rw [after.matching_whole rfl rfl, hnone] at hlisted
    exact hlisted

/-- Two people under the spellings of their names, a group among the people, and a person who is elsewhere. -/
def company : List Entry :=
  [⟨⟨[⟨"cn", "a"⟩, ⟨"ou", "people"⟩, ⟨"dc", "x"⟩]⟩, ⟨[("objectClass", .text "person")]⟩⟩,
    ⟨⟨[⟨"cn", "g"⟩, ⟨"ou", "people"⟩, ⟨"dc", "x"⟩]⟩, ⟨[("objectClass", .text "group")]⟩⟩,
    ⟨⟨[⟨"CN", "B"⟩, ⟨"OU", "People"⟩, ⟨"DC", "X"⟩]⟩, ⟨[("objectclass", .list [.text "top", .text "Person"])]⟩⟩,
    ⟨⟨[⟨"cn", "a"⟩, ⟨"dc", "x"⟩]⟩, ⟨[("objectClass", .text "person")]⟩⟩]

theorem contacts_readsAll : contacts.ReadsAll := fun _ => ⟨_, rfl, rfl⟩

/-- The group stays, and so does the person who is elsewhere. -/
theorem deleteAll_leaves_rest_company :
    let r := inMemory staff {}
    placed Store.client staff {} = .ok r ∧ Name.read staff.schema.base = .ok ⟨[⟨"ou", "people"⟩]⟩ ∧
      staff.schema.ReadsAll ∧ company.Pairwise (fun x y => x.name.same y.name = false) ∧
      (∀ e ∈ company, e.name.isRoot = false) ∧
      ∃ after, r.deleteAll.exec (.ofEntries company) = (.ok (), after) ∧ after.asked.length = 1 ∧
        after.entries = [company[1], company[3]] ∧
        (r.count.exec after).1 = .ok 0 ∧ (r.findAll.exec after).1 = .ok [] := by
  have hbase : Name.read staff.schema.base = .ok ⟨[⟨"ou", "people"⟩]⟩ := by decide +kernel
  have hapart : company.Pairwise (fun x y => x.name.same y.name = false) := by decide +kernel
  have hroot : ∀ e ∈ company, e.name.isRoot = false := by decide
  obtain ⟨after, hdone, hasked, hleft, hcount, hlist⟩ := @deleteAll_leaves_rest Contact staff {} (inMemory staff {}) rfl
    _ hbase contacts_readsAll (.ofEntries company) hapart hroot
  have hrest := hleft.trans (show _ = [company[1], company[3]] by decide +kernel)
  exact ⟨rfl, hbase, contacts_readsAll, hapart, hroot, after, hdone, congrArg List.length hasked, hrest, hcount, hlist⟩

end Repository
end DirectoryAccess
