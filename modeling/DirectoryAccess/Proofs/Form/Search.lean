import DirectoryAccess.Form.Search
import Mathlib.Data.List.Basic
/-!
# Searches read back from their stored form

What is absent is not written, and what is not written is read as absent; each way to leave a field out has one law that
says so (`optional_of_written`, `fieldOr_of_written`).  A filter names its kind, and its kind says which fields there are,
so a filter of any depth comes back as it was.  A query does too, but for its base: that is kept as text, and comes back
as the name that its text is read as (`stored_form_read_back`).
-/
namespace DirectoryAccess

variable {α : Type}

/-! ## Fields that may be left out -/

namespace Document

theorem field?_object (fields : List (String × Document)) (name : String) :
    (Document.object fields).field? name = fields.lookup name := rfl

theorem lookup_present (name key : String) (write : α → Document) (a? : Option α) :
    (present name write a?).lookup key = if key = name then a?.map write else none := by
  cases a? with
  | none => simp [present]
  | some a =>
    by_cases hkey : key = name
    · simp [present, hkey]
    · have hbeq : (key == name) = false := beq_eq_false_iff_ne.2 hkey
      simp [present, List.lookup_cons, hkey, hbeq]

theorem lookup_nonempty (name key : String) (write : α → Document) (as : List α) :
    (nonempty name write as).lookup key = if key = name ∧ as ≠ [] then some (.list (as.map write)) else none := by
  cases as with
  | nil => simp [nonempty]
  | cons a as =>
    by_cases hkey : key = name
    · simp [nonempty, hkey]
    · have hbeq : (key == name) = false := beq_eq_false_iff_ne.2 hkey
      simp [nonempty, List.lookup_cons, hkey, hbeq]

section

variable {d : Document} {name : String} {read : Document → Option α} {write : α → Document}

theorem optional_of_written {a? : Option α} (hfield : d.field? name = a?.map write)
    (hread : ∀ a ∈ a?, read (write a) = some a) (hnull : ∀ a, write a ≠ .null) : d.optional name read = some a? := by
  unfold optional
  rw [hfield]
  cases a? with
  | none => rfl
  | some a =>
    rw [Option.map_some]
    split
    · rename_i h
      cases h
    · rename_i h
      exact absurd (Option.some.inj h) (hnull a)
    · rename_i x _ h
      obtain rfl := Option.some.inj h
      rw [hread a rfl, Option.map_some]

theorem listOf?_map (hread : ∀ a, read (write a) = some a) (as : List α) :
    listOf? read (.list (as.map write)) = some as := by
  unfold listOf? list?
  rw [Option.bind_some]
  induction as with
  | nil => rfl
  | cons a as ih =>
    rw [List.map_cons, List.mapM_cons, hread, ih]
    rfl

theorem fieldOr_of_written {as : List α} (hfield : d.field? name = if as ≠ [] then some (.list (as.map write)) else none)
    (hread : ∀ a, read (write a) = some a) : d.fieldOr name [] (listOf? read) = some as := by
  unfold fieldOr
  rw [hfield]
  by_cases has : as = []
  · rw [if_neg (by simp [has]), has]
  · rw [if_pos has]
    exact listOf?_map hread as

end

end Document

/-! ## Filters -/

namespace Filter

/-- A condition with any pieces of text, whichever of them are left out. -/
theorem build_substring (attr : String) (initial : Option String) (middle : List String) (final : Option String)
    (parts : List Part) :
    build (toDocument (.substring attr initial middle final)) parts = some (.substring attr initial middle final) := by
  generalize hd : toDocument (.substring attr initial middle final) = d
  have hfields : d = node "substring" (("attribute", .text attr) :: (Document.present "initial" .text initial
      ++ Document.nonempty "any" .text middle ++ Document.present "final" .text final)) := hd.symm
  have hkind : d.required "type" Document.text? = some "substring" := by rw [hfields]; rfl
  have hattr : d.required "attribute" Document.text? = some attr := by rw [hfields]; rfl
  have htext (s : String) : Document.text? (.text s) = some s := rfl
  have hlookup (key : String) (hkey : key ≠ "type" ∧ key ≠ "attribute") : d.field? key =
      ((Document.present "initial" .text initial).lookup key).or
        (((Document.nonempty "any" .text middle).lookup key).or
          ((Document.present "final" .text final).lookup key)) := by
    rw [hfields, node, Document.field?_object, List.lookup_cons, beq_eq_false_iff_ne.2 hkey.1]
    simp only [List.lookup_cons, beq_eq_false_iff_ne.2 hkey.2, List.lookup_append, Option.or_assoc]
  have hinitial : d.optional "initial" Document.text? = some initial := by
    refine Document.optional_of_written ?_ (fun s _ => htext s) (fun _ h => by cases h)
    rw [hlookup "initial" (by decide)]
    simp [Document.lookup_present, Document.lookup_nonempty]
  have hmiddle : d.fieldOr "any" [] (Document.listOf? Document.text?) = some middle := by
    refine Document.fieldOr_of_written ?_ htext
    rw [hlookup "any" (by decide)]
    simp [Document.lookup_present, Document.lookup_nonempty]
  have hfinal : d.optional "final" Document.text? = some final := by
    refine Document.optional_of_written ?_ (fun s _ => htext s) (fun _ h => by cases h)
    rw [hlookup "final" (by decide)]
    simp [Document.lookup_present, Document.lookup_nonempty]
  simp [build, hkind, hattr, hinitial, hmiddle, hfinal]

mutual

theorem ofDocument?_toDocument : ∀ f : Filter, ofDocument? f.toDocument = some f
  | .test t attr value => by
    rw [toDocument, node, ofDocument?]
    cases t <;> rfl
  | .substring attr initial middle final => build_substring attr initial middle final _
  | .present attr => rfl
  | .all fs => by
    have hfs := ofDocuments?_toDocuments fs
    rw [toDocument, node, ofDocument?]
    simp [build, partsOf, listOfDocument?, hfs, Document.required, Document.field?_object, Document.text?]
  | .any fs => by
    have hfs := ofDocuments?_toDocuments fs
    rw [toDocument, node, ofDocument?]
    simp [build, partsOf, listOfDocument?, hfs, Document.required, Document.field?_object, Document.text?]
  | .not f => by
    have hf := ofDocument?_toDocument f
    rw [toDocument, node, ofDocument?]
    simp [build, partsOf, hf, Document.required, Document.field?_object, Document.text?]

theorem ofDocuments?_toDocuments : ∀ fs : List Filter, ofDocuments? (toDocuments fs) = some fs
  | [] => rfl
  | f :: fs => by
    rw [toDocuments, ofDocuments?, ofDocument?_toDocument f, ofDocuments?_toDocuments fs]
    rfl

end

end Filter

/-! ## Queries -/

theorem Scope.ofDocument?_toDocument (s : Scope) : ofDocument? s.toDocument = some s := by
  cases s <;> rfl

theorem Name.ofDocument?_eq_some {n n' : Name} (h : read n.text = .ok n') : ofDocument? n.toDocument = some n' := by
  rw [ofDocument?, toDocument, Document.text?, Option.bind_some, h]
  rfl

/-- A limit fits the number of bits that limits have. -/
theorem Document.natBelow?_toNat (n : UInt64) : natBelow? UInt64.size (.nat n.toNat) = some n.toNat := by
  have hfits : 0 ≤ (n.toNat : Int) ∧ (n.toNat : Int) < UInt64.size := by
    have hlt : n.toNat < UInt64.size := n.toNat_lt_size
    omega
  rw [natBelow?, nat, integer?, Option.bind_some, if_pos hfits, Int.toNat_natCast]

namespace Query

theorem ofDocument?_toDocument (q : Query) {base : Name} (hbase : Name.read q.base.text = .ok base) :
    ofDocument? q.toDocument = some { q with base } := by
  generalize hd : q.toDocument = d
  have hfields : d = .object ([("base", q.base.toDocument), ("scope", q.scope.toDocument),
      ("filter", q.filter.toDocument)] ++ Document.nonempty "attributes" .text q.attributes
        ++ Document.present "count_limit" (fun n => .nat n.toNat) q.limit) := hd.symm
  have hlookup (key : String) (hkey : key ≠ "base" ∧ key ≠ "scope" ∧ key ≠ "filter") : d.field? key =
      ((Document.nonempty "attributes" .text q.attributes).lookup key).or
        ((Document.present "count_limit" (fun n => .nat n.toNat) q.limit).lookup key) := by
    rw [hfields, Document.field?_object, List.append_assoc]
    simp only [List.cons_append, List.nil_append, List.lookup_cons, beq_eq_false_iff_ne.2 hkey.1,
      beq_eq_false_iff_ne.2 hkey.2.1, beq_eq_false_iff_ne.2 hkey.2.2, List.lookup_append]
  have hread : d.required "base" Name.ofDocument? = some base := by
    rw [hfields]
    exact Name.ofDocument?_eq_some hbase
  have hscope : d.fieldOr "scope" .subtree Scope.ofDocument? = some q.scope := by
    rw [hfields]
    exact q.scope.ofDocument?_toDocument
  have hfilter : d.required "filter" Filter.ofDocument? = some q.filter := by
    rw [hfields]
    exact q.filter.ofDocument?_toDocument
  have hattributes : d.fieldOr "attributes" [] (Document.listOf? Document.text?) = some q.attributes := by
    have htext (s : String) : Document.text? (.text s) = some s := rfl
    refine Document.fieldOr_of_written ?_ htext
    rw [hlookup "attributes" (by decide)]
    simp [Document.lookup_present, Document.lookup_nonempty]
  have hlimit : d.optional "count_limit" (Document.natBelow? UInt64.size) = some (q.limit.map UInt64.toNat) := by
    have hfield : d.field? "count_limit" = (q.limit.map UInt64.toNat).map .nat := by
      rw [hlookup "count_limit" (by decide)]
      simp [Document.lookup_present, Document.lookup_nonempty, Function.comp_def]
    refine Document.optional_of_written hfield (fun a ha => ?_) (fun _ h => by cases h)
    obtain ⟨n, -, rfl⟩ := Option.map_eq_some_iff.1 ha
    exact Document.natBelow?_toNat n
  have hround : (q.limit.map UInt64.toNat).map UInt64.ofNat = q.limit := by
    simp [Function.comp_def]
  simp [ofDocument?, hread, hscope, hfilter, hattributes, hlimit, hround]

end Query

/-- **Filters and queries come back from their stored form**, the base of a query as the name its text is read as. -/
theorem stored_form_read_back :
    (∀ f : Filter, Filter.ofDocument? f.toDocument = some f) ∧
      ∀ (q : Query) (base : Name), Name.read q.base.text = .ok base →
        Query.ofDocument? q.toDocument = some { q with base } :=
  ⟨Filter.ofDocument?_toDocument, fun q _ h => q.ofDocument?_toDocument h⟩

/-- A query for nothing, with empty pieces and empty lists in its filter and a comma in its base. -/
theorem stored_form_read_back_empty :
    let q : Query :=
      { base := ⟨[⟨"ou", "a,b "⟩, ⟨"dc", "x"⟩]⟩
        scope := .oneLevel
        filter := .not (.all [.substring "cn" (some "") [] none, .substring "cn" none ["", "*"] (some ""), .any []])
        attributes := [""]
        limit := some 0 }
    Name.read q.base.text = .ok q.base ∧ Query.ofDocument? q.toDocument = some q := by
  intro q
  have hbase : Name.read q.base.text = .ok q.base := by decide +kernel
  exact ⟨hbase, stored_form_read_back.2 q q.base hbase⟩

end DirectoryAccess
