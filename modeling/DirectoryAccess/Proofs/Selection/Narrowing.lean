import DirectoryAccess.Proofs.Attribute.Distinct
import DirectoryAccess.Proofs.Memo.Views
import DirectoryAccess.Proofs.Selection.Results
/-!
# Fetching only what is read

A selection that makes closed projections fetches the attributes behind the names that they read, and no others.  What
stands behind a name is worked out twice, once for the list of attributes and once for the table of a view, and the two
agree: an attribute that a view serves is in the list (`attr_mem_fetchedFor`), however its names are repeated, unknown or
without an attribute, and is kept by the store as it is.

So for entities that take each property from their name or from its own attribute, views of narrowed entries tell the
same as views of the whole ones (`narrowing_lossless`), and nothing about names that the projection does not read.
-/
namespace DirectoryAccess

variable {ε ρ : Type}

/-! ## Entities in part -/

namespace Schema

/-- Each property is taken from the name of the entry or from the attribute that is its own. -/
def TakesOwn (s : Schema ε) : Prop :=
  ∀ ⦃full part : Entry⦄ ⦃e e' : ε⦄, s.ofEntry full = .ok e → s.ofEntry part = .ok e' → full.name = part.name →
    ∀ ⦃name : String⦄ ⦃p : Property⦄, s.property? name = some p →
      (p.isStored = true → full.attributes.find? p.attr = part.attributes.find? p.attr) →
      s.read e name = s.read e' name

/-- An entry with attributes missing is no worse than the whole one. -/
def Lenient (s : Schema ε) : Prop :=
  ∀ ⦃entry : Entry⦄ ⦃e : ε⦄ (names : List String), s.ofEntry entry = .ok e →
    ∃ e', s.ofEntry (entry.keep names) = .ok e'

end Schema

/-! ## Views of closed projections -/

namespace Projection

variable {p : Projection} {names : List String}

theorem get_view (hclosed : p.accessors = .closed names) (s : Schema ε) (e : ε) (name : String) :
    (p.view s e).get name = if name ∈ names ∧ s.knows name = true then s.read e name else none := by
  have hserves : (AccessTable.of s p.accessors).serves name = true ↔ name ∈ names ∧ s.knows name = true := by
    rw [hclosed]
    unfold AccessTable.of AccessTable.serves
    rw [List.contains_iff_mem, List.mem_filter]
  unfold view View.of View.get
  simp only [hserves]

/-- Names that the projection does not read have no value. -/
theorem get_view_of_not_mem (hclosed : p.accessors = .closed names) (s : Schema ε) (e : ε) {name : String}
    (h : name ∉ names) : (p.view s e).get name = none := by
  rw [get_view hclosed, if_neg (fun hserved => h hserved.1)]

end Projection

namespace Selection

/-! ## Attributes that are fetched -/

theorem attr_mem_fetchedFor {s : Schema ε} {names : List String} {name : String} {p : Property} (hname : name ∈ names)
    (hp : s.property? name = some p) (hstored : p.isStored = true) : p.attr ∈ fetchedFor s names := by
  have hfetched : fetched? s name = some p.attr := by
    unfold fetched?
    rw [hp]
    exact if_pos hstored
  have hmem : p.attr ∈ names.filterMap (fetched? s) := List.mem_filterMap.2 ⟨name, hname, hfetched⟩
  unfold fetchedFor
  split
  · rename_i hnone
    rw [hnone] at hmem
    cases hmem
  · exact hmem

/-- An attribute that is fetched is as it was. -/
theorem find?_keep_of_mem {names : List String} {attr : String} (h : attr ∈ names) (as : Attributes) :
    (as.keep names).find? attr = as.find? attr := by
  have hany : names.any (fun n => Text.sameName n attr) = true := List.any_eq_true.2 ⟨attr, h, Text.sameName_refl attr⟩
  rw [Attributes.find?_keep, hany, Bool.or_true, if_pos rfl]

/-- **A view of what was fetched tells the same as a view of the whole entry.** -/
theorem get_view_narrowed {s : Schema ε} (htakes : s.TakesOwn) {p : Projection} {names : List String}
    (hclosed : p.accessors = .closed names) {entry : Entry} {e e' : ε} (he : s.ofEntry entry = .ok e)
    (he' : s.ofEntry (entry.keep (fetchedFor s names)) = .ok e') (name : String) :
    (p.view s e').get name = (p.view s e).get name := by
  rw [Projection.get_view hclosed, Projection.get_view hclosed]
  by_cases hserved : name ∈ names ∧ s.knows name = true
  · rw [if_pos hserved, if_pos hserved]
    obtain ⟨property, hproperty⟩ := Option.isSome_iff_exists.1 hserved.2
    refine (htakes he he' rfl hproperty (fun hstored => ?_)).symm
    exact (find?_keep_of_mem (attr_mem_fetchedFor hserved.1 hproperty hstored) entry.attributes).symm
  · rw [if_neg hserved, if_neg hserved]

/-! ## Rows -/

section

variable {s : Schema ε} {p : Projection}

theorem exec_convert_projection {memo : Memo} (h : memo.Keeps s p) (make : View → ρ) (entry : Entry) :
    ((convert s (.projection p make) entry).exec memo).1 = (s.ofEntry entry).map (fun e => make (p.view s e)) ∧
      ((convert s (.projection p make) entry).exec memo).2.Keeps s p := by
  unfold convert
  rw [Action.exec_bind, Action.exec_ofExcept]
  cases s.ofEntry entry with
  | error fault => exact ⟨rfl, h⟩
  | ok e =>
    obtain ⟨hview, hkeeps⟩ := h.view e
    exact ⟨congrArg (fun v => Except.ok (make v)) hview, hkeeps⟩

/-- What is kept from one row to the next makes no difference to the rows. -/
theorem outcomes_projection (make : View → ρ) : ∀ (entries : List Entry) (memo : Memo), memo.Keeps s p →
    outcomes s (.projection p make) entries memo =
      entries.map (fun entry => (s.ofEntry entry).map (fun e => make (p.view s e)))
  | [], _, _ => rfl
  | entry :: entries, memo, h => by
    obtain ⟨hrow, hkeeps⟩ := exec_convert_projection h make entry
    rw [outcomes, List.map_cons, hrow, outcomes_projection make entries _ hkeeps]

end

/-- **Fetching only what a closed projection reads loses nothing and shows nothing else.** -/
theorem narrowing_lossless {m : Mapping ε} {placement : Placement} {relative : Name}
    (hbase : Name.read m.schema.base = .ok relative) (htakes : m.schema.TakesOwn) {p : Projection}
    {names : List String} (hclosed : p.accessors = .closed names) {predicate : Predicate} {f : Filter}
    (hf : predicate.compile m.schema = .ok f) (make : View → ρ) (s : Store) {memo : Memo}
    (hmemo : memo.Keeps m.schema p) :
    let r := Repository.inMemory m placement
    let q : Selection ε ρ := { predicate, shape := .projection p make }
    let narrowed := Entry.keep (q.attributes m.schema)
    ∃ base, r.searchBase = .ok base ∧
      let full := s.matching (Repository.queryAt m placement base (some f) [] none)
      let rows := full.map (fun entry => (m.schema.ofEntry (narrowed entry)).map (fun e => make (p.view m.schema e)))
      (∃ pending, ((q.stream r).exec s).1 = .ok pending ∧ ∀ k, pending.draw k memo = rows.take k) ∧
      ((q.all r).exec (s, memo)).1 = rows.mapM id ∧
      ((q.first r).exec (s, memo)).1 = firstOf rows ∧
      ((q.one r).exec (s, memo)).1 = onlyOf rows ∧
      (∀ entry e, m.schema.ofEntry entry = .ok e →
        (m.schema.Lenient → ∃ e', m.schema.ofEntry (narrowed entry) = .ok e') ∧
        ∀ e', m.schema.ofEntry (narrowed entry) = .ok e' →
          ∀ name, (p.view m.schema e').get name = (p.view m.schema e).get name) ∧
      ∀ e name, name ∉ names → (p.view m.schema e).get name = none := by
  intro r q narrowed
  obtain ⟨base, hsearch⟩ : ∃ base, r.searchBase = .ok base := Repository.exists_searchBase hbase
  refine ⟨base, hsearch, ?_⟩
  intro full rows
  have hattributes : q.attributes m.schema = fetchedFor m.schema names := by
    show fetchedFor m.schema p.accessors.inputs = fetchedFor m.schema names
    rw [hclosed]
    rfl
  have hfound : q.found m placement base f s = full.map narrowed := by
    show _ = (List.map _ _).map narrowed
    rw [List.map_map]
    rfl
  have hrows : outcomes m.schema q.shape (q.found m placement base f s) memo = rows := by
    rw [hfound, outcomes_projection make _ memo hmemo, List.map_map]
    rfl
  rw [← hrows]
  refine ⟨⟨_, congrArg Prod.fst (exec_stream hsearch hf s), fun k => draw_eq_take k _ memo⟩, ?_,
    (exec_first hsearch hf s memo).1, (exec_one hsearch hf s memo).1, ?_, ?_⟩
  · rw [exec_all hsearch hf s memo]
    exact exec_convertAll m.schema q.shape _ memo
  · intro entry e he
    refine ⟨fun hlenient => hlenient _ he, fun e' he' name => ?_⟩
    have hentry : narrowed entry = entry.keep (fetchedFor m.schema names) := congrArg (Entry.keep · entry) hattributes
    rw [hentry] at he'
    exact get_view_narrowed htakes hclosed he he' name
  · intro e name hname
    exact Projection.get_view_of_not_mem hclosed m.schema e hname

/-- Entries themselves as entities, with a property of every kind. -/
def folk : Schema Entry where
  typeName := "Folk"
  classes := ["person"]
  base := ""
  properties := [.id "name", .naming "common" "cn", .plain "address" "mail", .transient "nick"]
  id? := fun e => some e.name
  setId := fun n e => { e with name := n }
  attributes := fun e => e.attributes.erase classAttribute
  ofEntry := .ok

theorem folk_takesOwn : folk.TakesOwn := by
  intro full part e e' he he' hname name p hp hsame
  obtain rfl := Except.ok.inj he
  obtain rfl := Except.ok.inj he'
  have hvalue : p.isStored = true → Schema.valueOf? (full.attributes.erase classAttribute) p.attr =
      Schema.valueOf? (part.attributes.erase classAttribute) p.attr := by
    intro hstored
    unfold Schema.valueOf?
    rw [Attributes.find?_erase, Attributes.find?_erase, hsame hstored]
  unfold Schema.read
  rw [hp]
  obtain ⟨name', attr, role⟩ := p
  cases role with
  | id => exact congrArg (fun n : Name => some (Value.text n.text)) hname
  | naming => exact hvalue rfl
  | plain => exact hvalue rfl
  | transient => rfl

/-- A card that shows the name and the address of a person, and asks for what there is not. -/
def card : Projection := ⟨"Card", .closed ["name", "address", "nick", "colour", "address"]⟩

/-- Of three attributes one is fetched, twice, beside one that nobody knows. -/
theorem narrowing_lossless_card :
    let q : Selection Entry (List (Option Value)) :=
      { predicate := .isNotNull "common"
        shape := .projection card (fun v => ["name", "address", "nick", "colour", "common"].map v.get) }
    let person : Entry := ⟨⟨[⟨"cn", "a"⟩]⟩, ⟨[(classAttribute, .text "person"), ("cn", .text "a"), ("MAIL", .text "a@x")]⟩⟩
    Name.read folk.base = .ok .root ∧ folk.TakesOwn ∧ Memo.Keeps {} folk card ∧
      q.attributes folk = ["mail", "colour", "mail"] ∧
      ((q.all (Repository.inMemory ⟨folk, .root⟩ {})).exec (.ofEntries [person], {})).1 =
        .ok [[some (.text "cn=a"), some (.text "a@x"), none, none, none]] := by
  intro q person
  have hbase : Name.read folk.base = .ok .root := rfl
  obtain ⟨base, hsearch, -, hall, -⟩ := @narrowing_lossless Entry _ ⟨folk, .root⟩ {} _ hbase folk_takesOwn card _ rfl
    q.predicate _ rfl (fun v => ["name", "address", "nick", "colour", "common"].map v.get) (.ofEntries [person]) {}
    (Memo.keeps_empty folk card)
  obtain rfl : Name.root = base := Except.ok.inj hsearch
  refine ⟨hbase, folk_takesOwn, Memo.keeps_empty folk card, by decide +kernel, ?_⟩
  rw [hall]
  decide +kernel

end Selection
end DirectoryAccess
