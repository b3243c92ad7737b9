import DirectoryAccess.Proofs.Attribute.Distinct
import DirectoryAccess.Proofs.Repository.Placement
import DirectoryAccess.Proofs.Store.Finding
/-!
# Queries of the caller's own

A repository takes any query and confines it to the classes of its schema.  Whatever the filter is, what is then found
are the entries that the query alone finds and that have all these classes (`selected_confine`), and only of those does
a limit keep the first so many (`queries_confined`).  With no class at all nothing is left out.

The classes of an entry count whether they are asked for or not.
-/
namespace DirectoryAccess

variable {ε : Type}

/-- All classes of the schema are among those of the entry. -/
def Mapping.Classifies (m : Mapping ε) (e : Entry) : Prop :=
  ∀ cls ∈ m.schema.classes, ∃ value ∈ e.attributes.textsOf classAttribute, Text.lower value = Text.lower cls

instance (m : Mapping ε) (e : Entry) : Decidable (m.Classifies e) :=
  inferInstanceAs (Decidable
    (∀ cls ∈ m.schema.classes, ∃ value ∈ e.attributes.textsOf classAttribute, Text.lower value = Text.lower cls))

/-- The attribute is among those asked for. -/
def Query.asksFor (q : Query) (attr : String) : Bool :=
  q.attributes.isEmpty || q.attributes.contains "*" || q.attributes.any (fun n => Text.sameName n attr)

/-! ## Classes -/

theorem Filter.selects_equals_iff (attr value : String) (as : Attributes) :
    (Filter.equals attr value).selects as = true ↔ ∃ x ∈ as.textsOf attr, Text.lower x = Text.lower value := by
  have haccepts (x : String) : Test.equals.accepts value x = true ↔ Text.lower x = Text.lower value := beq_iff_eq
  unfold Filter.equals Filter.selects
  simp only [List.any_eq_true, haccepts]

namespace Mapping

variable (m : Mapping ε)

/-- An entry is selected with the criteria when it has the classes and meets these. -/
theorem selects_restrict_some (f : Filter) (e : Entry) :
    (m.restrict (some f)).selects e.attributes = (decide (m.Classifies e) && f.selects e.attributes) := by
  have hclasses : (m.schema.classes.map (Filter.equals classAttribute)).all (·.selects e.attributes) =
      decide (m.Classifies e) := by
    rw [Bool.eq_iff_iff, decide_eq_true_iff, List.all_map, List.all_eq_true]
    exact forall₂_congr (fun cls _ => Filter.selects_equals_iff classAttribute cls e.attributes)
  rw [selects_restrict m (some f) _ (by simp), List.all_append, hclasses]
  simp

/-- Where the classes are asked for, an entry has as many of them as it is found. -/
theorem classifies_keep {q : Query} (h : q.asksFor classAttribute = true) (e : Entry) :
    m.Classifies (e.keep q.attributes) ↔ m.Classifies e := by
  have htexts : (e.keep q.attributes).attributes.textsOf classAttribute = e.attributes.textsOf classAttribute := by
    have hfind : (e.attributes.keep q.attributes).find? classAttribute = e.attributes.find? classAttribute :=
      (Attributes.find?_keep _ _ _).trans (if_pos h)
    unfold Attributes.textsOf Entry.keep
    rw [hfind]
  unfold Classifies
  rw [htexts]

end Mapping

/-! ## Queries -/

namespace Repository

variable (m : Mapping ε) (placement : Placement) (q : Query) (s : Store)

theorem selected_confine :
    s.selected ((inMemory m placement).confine q) = (s.selected q).filter (fun e => m.Classifies e) := by
  unfold Store.selected confine
  rw [List.filter_filter]
  refine List.filter_congr (fun e _ => ?_)
  rw [mapping_inMemory, m.selects_restrict_some, Bool.and_left_comm]

/-- What is found of the entries of these classes. -/
theorem matching_confine :
    s.matching ((inMemory m placement).confine q) =
      (Store.limited q.limit ((s.selected q).filter (fun e => m.Classifies e))).map (Entry.keep q.attributes) := by
  rw [Store.matching_eq, selected_confine]
  rfl

theorem exec_find_confine :
    ((inMemory m placement).client.find ((inMemory m placement).confine q)).exec s =
      (.ok (s.matching ((inMemory m placement).confine q)), s.ask ((inMemory m placement).confine q)) :=
  Store.exec_find _ s

theorem exec_findAllQuery :
    ((inMemory m placement).findAllQuery q).exec s =
      ((s.matching ((inMemory m placement).confine q)).mapM m.schema.ofEntry,
        s.ask ((inMemory m placement).confine q)) := by
  unfold findAllQuery
  rw [Action.exec_bind, exec_find_confine]
  rfl

theorem exec_findOneQuery :
    ((inMemory m placement).findOneQuery q).exec s =
      ((match s.matching ((inMemory m placement).confine q) with
        | [] => .ok none
        | [entry] => (m.schema.ofEntry entry).map some
        | entries => .error (.cardinality 1 entries.length)), s.ask ((inMemory m placement).confine q)) := by
  have hone : ((inMemory m placement).client.findOne ((inMemory m placement).confine q)).exec s = _ :=
    Store.exec_findOne _ s
  unfold findOneQuery
  rw [Action.exec_bind, Action.exec_attempt, hone]
  rcases s.matching ((inMemory m placement).confine q) with _ | ⟨entry, _ | ⟨other, entries⟩⟩
  · rfl
  · dsimp only
    rw [Action.exec_bind, Action.exec_ofExcept, mapping_inMemory]
    cases m.schema.ofEntry entry <;> rfl
  · rfl

/-- **A query of the caller's finds, of all that it is after, the entries of the repository's classes.**

`all` is what the query finds without a limit and with all attributes.  Of these the entries that have all classes of
the schema are found, in the same order, at most as many as the limit says and with the attributes that are asked for;
if the classes are among them, these are the entries with all classes in the answer to the query without its limit.
The entities are those of the entries found, the only entity is that of the only entry, and with more entries there is
none. -/
theorem queries_confined :
    ∃ all found : List Entry,
      (Store.client.find (q.asking [] none)).exec s = (.ok all, s.ask (q.asking [] none)) ∧
      (Store.client.find (q.asking q.attributes none)).exec s =
        (.ok (all.map (Entry.keep q.attributes)), s.ask (q.asking q.attributes none)) ∧
      found = (Store.limited q.limit (all.filter (fun e => m.Classifies e))).map (Entry.keep q.attributes) ∧
      (q.asksFor classAttribute = true →
        found = Store.limited q.limit ((all.map (Entry.keep q.attributes)).filter (fun e => m.Classifies e))) ∧
      ((inMemory m placement).client.find ((inMemory m placement).confine q)).exec s =
        (.ok found, s.ask ((inMemory m placement).confine q)) ∧
      ((inMemory m placement).findAllQuery q).exec s =
        (found.mapM m.schema.ofEntry, s.ask ((inMemory m placement).confine q)) ∧
      ((inMemory m placement).findOneQuery q).exec s =
        ((match found with
          | [] => .ok none
          | [entry] => (m.schema.ofEntry entry).map some
          | entries => .error (.cardinality 1 entries.length)), s.ask ((inMemory m placement).confine q)) := by
  have hall : s.matching (q.asking [] none) = s.selected q := List.map_id' (s.selected q)
  refine ⟨s.selected q, s.matching ((inMemory m placement).confine q), ?_, Store.exec_find _ s,
    matching_confine m placement q s, fun h => ?_, exec_find_confine m placement q s,
    exec_findAllQuery m placement q s, exec_findOneQuery m placement q s⟩
  · rw [Store.exec_find, hall]
  · have hclassifies : (fun e => decide (m.Classifies e)) ∘ Entry.keep q.attributes =
        fun e => decide (m.Classifies e) :=
      funext (fun e => decide_eq_decide.2 (m.classifies_keep h e))
    rw [matching_confine, List.filter_map, hclassifies, Store.limited_map]

/-- Contacts that have two classes. -/
def accounts : Mapping Contact := ⟨{ contacts with classes := ["person", "Account"] }, .root⟩

/-- Three entries with both classes, in different spellings, and one with a single class. -/
def accountEntries : Store :=
  .ofEntries [⟨⟨[⟨"cn", "a"⟩]⟩, ⟨[("CN", .text "a"), ("objectclass", .list [.text "account", .text "PERSON"])]⟩⟩,
    ⟨⟨[⟨"cn", "b"⟩]⟩, ⟨[("cn", .text "b"), ("mail", .text "b@x"), ("objectClass", .text "person")]⟩⟩,
    ⟨⟨[⟨"cn", "c"⟩]⟩, ⟨[("cn", .text "c"), ("mail", .text "c@x"),
      ("objectClass", .list [.text "top", .text "person", .text "account"])]⟩⟩,
    ⟨⟨[⟨"cn", "d"⟩]⟩, ⟨[("cn", .text "d"), ("objectClass", .list [.text "person", .text "account"])]⟩⟩]

/-- A disjunction is confined as a whole: two of the three entries that it finds are accounts. -/
theorem queries_confined_accounts :
    let q : Query :=
      { base := .root, filter := .any [.present "mail", .equals "cn" "A"], attributes := ["cn", "OBJECTCLASS"] }
    let r := inMemory accounts {}
    q.asksFor classAttribute = true ∧
      ((Store.client.count q).exec accountEntries).1 = .ok 3 ∧
      (r.findAllQuery q).exec accountEntries =
        (.ok [⟨some ⟨[⟨"cn", "a"⟩]⟩, "a", none⟩, ⟨some ⟨[⟨"cn", "c"⟩]⟩, "c", none⟩],
          accountEntries.ask (r.confine q)) ∧
      (r.findOneQuery q).exec accountEntries = (.error (.cardinality 1 2), accountEntries.ask (r.confine q)) := by
  intro q r
  have hasks : q.asksFor classAttribute = true := by decide
  obtain ⟨all, found, hall, -, -, hfound, -, hlist, hone⟩ := queries_confined accounts {} q accountEntries
  obtain rfl : accountEntries.matching (q.asking [] none) = all :=
    Except.ok.inj (congrArg Prod.fst ((Store.exec_find _ _).symm.trans hall))
  obtain rfl : found =
      [⟨⟨[⟨"cn", "a"⟩]⟩, ⟨[("CN", .text "a"), ("objectclass", .list [.text "account", .text "PERSON"])]⟩⟩,
        ⟨⟨[⟨"cn", "c"⟩]⟩, ⟨[("cn", .text "c"),
          ("objectClass", .list [.text "top", .text "person", .text "account"])]⟩⟩] :=
    (hfound hasks).trans (by decide +kernel)
  exact ⟨hasks, rfl, hlist, hone⟩

end Repository
end DirectoryAccess
