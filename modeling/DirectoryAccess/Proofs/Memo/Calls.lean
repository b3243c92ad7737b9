import DirectoryAccess.Proofs.Memo.Views
import Mathlib.Data.List.Dedup
/-!
# Any number of calls over one memo

One memo serves any mix of entity, projection and record types (`Catalog`), call after call.  The invariant of a run
(`Memo.Serves`) has two sides.  What is kept under a key is what is worked out for that very key, so no call can tell
whether something was kept.  And the keys of tables and bindings are the pairs of types for which one was worked out,
each once, so their numbers can be told from the calls alone.

A binding that cannot be worked out leaves the memo as it was; nothing kept later makes it come about.
-/
namespace DirectoryAccess

/-! ## Tables with keys -/

/-- What stands under a key is what the key gives, and no key stands there twice. -/
structure Memoized {κ α : Type} (value : κ → Option α) (table : List (κ × α)) : Prop where
  nodup : (table.map Prod.fst).Nodup
  right : ∀ p ∈ table, value p.1 = some p.2

theorem Memoized.nil {κ α : Type} {value : κ → Option α} : Memoized value [] := ⟨List.nodup_nil, fun _ h => by cases h⟩

section
variable {κ α : Type} [BEq κ] [LawfulBEq κ] {value : κ → Option α} {table : List (κ × α)}

/-- The table with a value under the key, unless there is one. -/
def remember (table : List (κ × α)) (k : κ) (a : α) : List (κ × α) :=
  match table.lookup k with
  | some _ => table
  | none => table ++ [(k, a)]

theorem Memoized.of_lookup (h : Memoized value table) {k : κ} {a : α} (hk : table.lookup k = some a) : value k = some a := by
  obtain ⟨front, back, rfl, -⟩ := List.lookup_eq_some_iff.1 hk
  exact h.right (k, a) (by simp)

theorem not_mem_keys_iff {k : κ} : k ∉ table.map Prod.fst ↔ table.lookup k = none := by
  rw [List.lookup_eq_none_iff]
  simp only [List.mem_map, not_exists, not_and, bne_iff_ne]
  exact ⟨fun h p hp heq => h p hp heq.symm, fun h p hp heq => h p hp heq.symm⟩

theorem mem_keys_remember {k j : κ} {a : α} :
    j ∈ (remember table k a).map Prod.fst ↔ j ∈ table.map Prod.fst ∨ j = k := by
  unfold remember
  split
  · rename_i b hlookup
    have hmem : k ∈ table.map Prod.fst := by
      rw [← not_not (a := k ∈ table.map Prod.fst), not_mem_keys_iff, hlookup]
      simp
    refine ⟨.inl, fun h => h.elim id ?_⟩
    rintro rfl
    exact hmem
  · simp

theorem Memoized.remember (h : Memoized value table) {k : κ} {a : α} (ha : value k = some a) :
    Memoized value (remember table k a) := by
  unfold DirectoryAccess.remember
  split
  · exact h
  rename_i hlookup
  have hnew : k ∉ table.map Prod.fst := not_mem_keys_iff.2 hlookup
  refine ⟨?_, fun p hp => ?_⟩
  · rw [List.map_append, List.map_singleton]
    exact h.nodup.append (List.nodup_singleton k) (by simpa using hnew)
  · rcases List.mem_append.1 hp with hp | hp
    · exact h.right p hp
    · rw [List.mem_singleton.1 hp]
      exact ha

omit [BEq κ] [LawfulBEq κ] in
/-- As many rows as there are different keys. -/
theorem Memoized.length_eq [DecidableEq κ] (h : Memoized value table) {keys : List κ}
    (hkeys : ∀ k, k ∈ table.map Prod.fst ↔ k ∈ keys) : table.length = keys.dedup.length := by
  have hperm : (table.map Prod.fst).Perm keys.dedup :=
    (List.perm_ext_iff_of_nodup h.nodup (List.nodup_dedup keys)).2 (fun k => by rw [hkeys, List.mem_dedup])
  rw [← hperm.length_eq, List.length_map]

end

/-! ## Types and calls -/

/-- The types of a program, told apart by their names.  A name that none of them has may stand for anything. -/
structure Catalog where
  entity : String → Type
  schema : (name : String) → Schema (entity name)
  projection : String → Projection
  product : String → Type
  record : (name : String) → RecordType (product name)
  typeName_schema : ∀ name, (schema name).typeName = name
  typeName_projection : ∀ name, (projection name).typeName = name
  typeName_record : ∀ name, (record name).typeName = name

namespace Catalog

variable (c : Catalog)

def tableFor (key : String × String) : AccessTable := AccessTable.of (c.schema key.1) (c.projection key.2).accessors

def resolve (key : String × String) : Except Fault Binding := (c.record key.2).resolve (c.schema key.1)

end Catalog

namespace Memo

/-- What is asked of a memo. -/
inductive Call (c : Catalog) where
  | view (source target : String) (e : c.entity source)
  | accessors (target : String)
  | make (source target : String) (e : c.entity source)
  | parameters (source target : String)

namespace Call

variable {c : Catalog}

def Answer : Call c → Type
  | .view _ _ _ => View
  | .accessors _ => Accessors
  | .make _ target _ => Except Fault (c.product target)
  | .parameters _ _ => Except Fault (List String)

def run : (call : Call c) → Memo → call.Answer × Memo
  | .view source target e, m => m.view (c.schema source) (c.projection target) e
  | .accessors target, m => m.accessorsOf (c.projection target)
  | .make source target e, m => (Memo.make (c.schema source) (c.record target) e).exec m
  | .parameters source target, m => (Memo.parametersOf (c.schema source) (c.record target)).exec m

/-- The answer that is worked out without a memo. -/
def direct : (call : Call c) → call.Answer
  | .view source target e => (c.projection target).view (c.schema source) e
  | .accessors target => (c.projection target).accessors
  | .make source target e => (c.record target).make (c.schema source) e
  | .parameters source target => (c.resolve (source, target)).map Binding.parameters

/-- The types between which the call looks for a table. -/
def table? : Call c → Option (String × String)
  | .view source target _ => some (source, target)
  | _ => none

/-- The types between which the call finds a binding. -/
def binding? : Call c → Option (String × String)
  | .make source target _ => if (c.resolve (source, target)).isOk then some (source, target) else none
  | .parameters source target => if (c.resolve (source, target)).isOk then some (source, target) else none
  | _ => none

/-- The memo after calls one after another. -/
def afterAll (calls : List (Call c)) (m : Memo) : Memo := calls.foldl (fun m call => (call.run m).2) m

end Call

/-! ## What one call leaves -/

variable {c : Catalog} {m : Memo}

/-- The memo after some calls. -/
structure Serves (c : Catalog) (calls : List (Call c)) (m : Memo) : Prop where
  accessors : Memoized (fun target => some (c.projection target).accessors) m.accessors
  tables : Memoized (fun key => some (c.tableFor key)) m.tables
  bindings : Memoized (fun key => (c.resolve key).toOption) m.bindings
  tableKeys : ∀ key, key ∈ m.tables.map Prod.fst ↔ key ∈ calls.filterMap Call.table?
  bindingKeys : ∀ key, key ∈ m.bindings.map Prod.fst ↔ key ∈ calls.filterMap Call.binding?

theorem serves_empty : Serves c [] {} where
  accessors := .nil
  tables := .nil
  bindings := .nil
  tableKeys := fun _ => Iff.rfl
  bindingKeys := fun _ => Iff.rfl

theorem mem_filterMap_concat {α β : Type} {f : α → Option β} {as : List α} {a : α} {b : β} :
    b ∈ (as ++ [a]).filterMap f ↔ b ∈ as.filterMap f ∨ f a = some b := by
  simp [List.filterMap_append]

theorem accessorsOf_eq (m : Memo) (p : Projection) :
    (m.accessorsOf p).2 = { m with accessors := remember m.accessors p.typeName p.accessors } := by
  unfold accessorsOf remember
  cases m.accessors.lookup p.typeName <;> rfl

/-- A table is worked out from what is kept of the projection, which is kept from then on. -/
theorem tableOf_eq {ε : Type} (m : Memo) (s : Schema ε) (p : Projection) :
    (m.tableOf s p).2 =
      { m with
        accessors :=
          if (m.tables.lookup (s.typeName, p.typeName)).isSome then m.accessors
          else remember m.accessors p.typeName p.accessors
        tables := remember m.tables (s.typeName, p.typeName) (AccessTable.of s (m.accessorsOf p).1) } := by
  unfold tableOf remember
  cases m.tables.lookup (s.typeName, p.typeName) with
  | some t => rfl
  | none =>
    dsimp only
    rw [accessorsOf_eq]
    rfl

/-- What is kept for the two types is what is worked out for them. -/
def KeepsBinding {ε ρ : Type} (m : Memo) (s : Schema ε) (t : RecordType ρ) : Prop :=
  ∀ b, m.bindings.lookup (s.typeName, t.typeName) = some b → t.resolve s = .ok b

/-- A binding is looked for, and `f` goes on with it. -/
theorem KeepsBinding.exec_bind {ε ρ α : Type} {s : Schema ε} {t : RecordType ρ} (h : m.KeepsBinding s t)
    (f : Binding → Except Fault α) :
    (bindingOf s t >>= fun b => Action.ofExcept (f b)).exec m =
      match t.resolve s with
      | .ok b => (f b, { m with bindings := remember m.bindings (s.typeName, t.typeName) b })
      | .error fault => (.error fault, m) := by
  rw [Action.exec_bind]
  unfold bindingOf remember
  rw [Action.exec_ofStep]
  cases hlookup : m.bindings.lookup (s.typeName, t.typeName) with
  | some b => rw [h b hlookup]; rfl
  | none => cases t.resolve s <;> rfl

theorem Serves.keeps {calls : List (Call c)} (h : Serves c calls m) (source target : String) :
    m.Keeps (c.schema source) (c.projection target) where
  accessors := fun a ha => by
    rw [c.typeName_projection] at ha
    exact (Option.some.inj (h.accessors.of_lookup ha)).symm
  table := fun t ht => by
    rw [c.typeName_schema, c.typeName_projection] at ht
    exact (Option.some.inj (h.tables.of_lookup ht)).symm

theorem Serves.keepsBinding {calls : List (Call c)} (h : Serves c calls m) (source target : String) :
    m.KeepsBinding (c.schema source) (c.record target) := by
  intro b hb
  rw [c.typeName_schema, c.typeName_record] at hb
  have hresolve : (c.resolve (source, target)).toOption = some b := h.bindings.of_lookup hb
  cases hr : c.resolve (source, target) with
  | ok b' =>
    rw [hr] at hresolve
    rw [← Option.some.inj hresolve]
    exact hr
  | error fault =>
    rw [hr] at hresolve
    cases hresolve

theorem exec_bindingOf_bind {calls : List (Call c)} (h : Serves c calls m) {α : Type} (source target : String)
    (f : Binding → Except Fault α) :
    (bindingOf (c.schema source) (c.record target) >>= fun b => Action.ofExcept (f b)).exec m =
      match c.resolve (source, target) with
      | .ok b => (f b, { m with bindings := remember m.bindings (source, target) b })
      | .error fault => (.error fault, m) := by
  rw [(h.keepsBinding source target).exec_bind, c.typeName_schema, c.typeName_record]
  rfl

/-- A call that works nothing out. -/
theorem Serves.idle {calls : List (Call c)} (h : Serves c calls m) (call : Call c) (htable : call.table? = none)
    (hbinding : call.binding? = none) : Serves c (calls ++ [call]) m where
  accessors := h.accessors
  tables := h.tables
  bindings := h.bindings
  tableKeys := fun key => by rw [mem_filterMap_concat, htable]; simpa using h.tableKeys key
  bindingKeys := fun key => by rw [mem_filterMap_concat, hbinding]; simpa using h.bindingKeys key

/-- A call that works out a binding. -/
theorem Serves.bind {calls : List (Call c)} (h : Serves c calls m) (call : Call c) {key : String × String}
    {b : Binding} (htable : call.table? = none) (hbinding : call.binding? = some key) (hb : c.resolve key = .ok b) :
    Serves c (calls ++ [call]) { m with bindings := remember m.bindings key b } where
  accessors := h.accessors
  tables := h.tables
  bindings := h.bindings.remember (by rw [hb]; rfl)
  tableKeys := fun key => by rw [mem_filterMap_concat, htable]; simpa using h.tableKeys key
  bindingKeys := fun key => by
    rw [mem_keys_remember, mem_filterMap_concat, hbinding, h.bindingKeys, Option.some.injEq, eq_comm]

/-- A call that looks for a binding. -/
theorem Serves.bound {calls : List (Call c)} (h : Serves c calls m) (call : Call c) {α : Type} (source target : String)
    (f : Binding → Except Fault α) (htable : call.table? = none)
    (hbinding : call.binding? = if (c.resolve (source, target)).isOk then some (source, target) else none) :
    Serves c (calls ++ [call])
      ((bindingOf (c.schema source) (c.record target) >>= fun b => Action.ofExcept (f b)).exec m).2 := by
  rw [exec_bindingOf_bind h]
  cases hresolve : c.resolve (source, target) with
  | ok b => exact h.bind call htable (by rw [hbinding, hresolve]; rfl) hresolve
  | error fault => exact h.idle call htable (by rw [hbinding, hresolve]; rfl)

/-- A call for a table keeps it, and what it is worked out from. -/
theorem Serves.view {calls : List (Call c)} (h : Serves c calls m) (source target : String) (e : c.entity source) :
    Serves c (calls ++ [.view source target e]) ((Call.view source target e).run m).2 := by
  show Serves c _ (m.tableOf (c.schema source) (c.projection target)).2
  rw [tableOf_eq, (h.keeps source target).accessorsOf.1]
  refine ⟨?_, ?_, h.bindings, fun key => ?_, fun key => ?_⟩
  · dsimp only
    split
    · exact h.accessors
    · exact h.accessors.remember (by rw [c.typeName_projection])
  · exact h.tables.remember (by rw [c.typeName_schema, c.typeName_projection]; rfl)
  · rw [mem_keys_remember, mem_filterMap_concat, h.tableKeys, c.typeName_schema, c.typeName_projection]
    simp [Call.table?, eq_comm]
  · rw [mem_filterMap_concat, h.bindingKeys]
    simp [Call.binding?]

/-- **A call answers as if nothing were kept**, and the memo serves on. -/
theorem Serves.step {calls : List (Call c)} (h : Serves c calls m) (call : Call c) :
    (call.run m).1 = call.direct ∧ Serves c (calls ++ [call]) (call.run m).2 := by
  cases call with
  | accessors target =>
    refine ⟨(h.keeps target target).accessorsOf.1, ?_⟩
    show Serves c _ (m.accessorsOf (c.projection target)).2
    rw [accessorsOf_eq]
    obtain ⟨-, htables, hbindings, htableKeys, hbindingKeys⟩ := h.idle (.accessors target) rfl rfl
    exact ⟨h.accessors.remember (by rw [c.typeName_projection]), htables, hbindings, htableKeys, hbindingKeys⟩
  | view source target e => exact ⟨((h.keeps source target).view e).1, h.view source target e⟩
  | parameters source target =>
    have hrun := exec_bindingOf_bind h source target (fun b => .ok b.parameters)
    refine ⟨(congrArg Prod.fst hrun).trans ?_, h.bound (.parameters source target) source target _ rfl rfl⟩
    show _ = (c.resolve (source, target)).map Binding.parameters
    cases c.resolve (source, target) <;> rfl
  | make source target e =>
    have hrun := exec_bindingOf_bind h source target (fun b => (c.record target).makeWith (c.schema source) b e)
    refine ⟨(congrArg Prod.fst hrun).trans ?_, h.bound (.make source target e) source target _ rfl rfl⟩
    show _ = match c.resolve (source, target) with
      | .ok b => (c.record target).makeWith (c.schema source) b e
      | .error fault => .error fault
    cases c.resolve (source, target) <;> rfl

/-! ## Any number of calls -/

theorem Serves.afterAll (history : List (Call c)) {calls : List (Call c)} (h : Serves c calls m) :
    Serves c (calls ++ history) (Call.afterAll history m) := by
  induction history generalizing calls m with
  | nil => simpa [Call.afterAll] using h
  | cons call history ih => simpa [Call.afterAll] using ih (h.step call).2

/-- **Nothing but the counts tells what was kept.** -/
theorem calls_transparent (c : Catalog) (history : List (Call c)) :
    (∀ call : Call c, (call.run (Call.afterAll history {})).1 = (call.run {}).1 ∧ (call.run {}).1 = call.direct) ∧
      (∀ source target fault, c.resolve (source, target) = .error fault →
        (parametersOf (c.schema source) (c.record target)).exec (Call.afterAll history {}) =
            (.error fault, Call.afterAll history {}) ∧
          ∀ e : c.entity source, (make (c.schema source) (c.record target) e).exec (Call.afterAll history {}) =
            (.error fault, Call.afterAll history {})) ∧
      (Call.afterAll history ({} : Memo)).tableCount = (history.filterMap Call.table?).dedup.length ∧
      (Call.afterAll history ({} : Memo)).bindingCount = (history.filterMap Call.binding?).dedup.length := by
  have h : Serves c history (Call.afterAll history {}) := by
    simpa using (serves_empty (c := c)).afterAll history
  refine ⟨fun call => ?_, fun source target fault hresolve => ?_, ?_, ?_⟩
  · have hfresh := (serves_empty (c := c)).step call
    exact ⟨(h.step call).1.trans hfresh.1.symm, hfresh.1⟩
  · have hbind {α : Type} (f : Binding → Except Fault α) := exec_bindingOf_bind h source target f
    simp only [hresolve] at hbind
    exact ⟨hbind (fun b => .ok b.parameters), fun e => hbind (fun b => (c.record target).makeWith (c.schema source) b e)⟩
  · exact h.tables.length_eq h.tableKeys
  · exact h.bindings.length_eq h.bindingKeys

/-- Names on cards.  A stamp is made of an age, which no schema knows. -/
def cards : Catalog where
  entity _ := String
  schema name :=
    { typeName := name
      classes := ["person"]
      base := ""
      properties := [.naming "name" "cn"]
      id? := fun _ => none
      setId := fun _ e => e
      attributes := fun e => Attributes.empty.set "cn" (.text e)
      ofEntry := fun _ => .ok "" }
  projection name := ⟨name, .closed ["name", "age"]⟩
  product _ := String
  record name := ⟨name, [⟨[if name = "Stamp" then "age" else "name"], Build.text "name"⟩], [], fun _ _ r => .ok r⟩
  typeName_schema _ := rfl
  typeName_projection _ := rfl
  typeName_record _ := rfl

/-- Two pairs of types are viewed, one label is bound and no stamp is. -/
def dealt : List (Call cards) :=
  [.view "Person" "Card" "Ann", .make "Person" "Stamp" "Ann", .view "Person" "Card" "Bob",
    .parameters "Person" "Label", .view "Group" "Card" "All", .parameters "Person" "Stamp",
    .make "Person" "Label" "Ann"]

theorem calls_transparent_cards :
    (Call.afterAll dealt ({} : Memo)).tableCount = 2 ∧ (Call.afterAll dealt ({} : Memo)).bindingCount = 1 ∧
    ((Call.make "Person" "Label" "Bob" : Call cards).run (Call.afterAll dealt {})).1 = Except.ok "Bob" ∧
    (make (cards.schema "Person") (cards.record "Stamp") "Bob").exec (Call.afterAll dealt {}) =
      (.error (.mapping (.noRecipe "Stamp" "Person")), Call.afterAll dealt {}) := by
  obtain ⟨hanswers, hfails, htables, hbindings⟩ := calls_transparent cards dealt
  obtain ⟨hfresh, hdirect⟩ := hanswers (.make "Person" "Label" "Bob")
  have hstamp : cards.resolve ("Person", "Stamp") = .error (.mapping (.noRecipe "Stamp" "Person")) := rfl
  refine ⟨htables.trans (by decide), hbindings.trans (by decide), ?_, (hfails _ _ _ hstamp).2 "Bob"⟩
  exact hfresh.trans (hdirect.trans rfl)

end Memo
end DirectoryAccess
