import DirectoryAccess.Proofs.Filter.Core
import DirectoryAccess.Proofs.Predicate.Meaning
/-!
# The properties of a predicate

The properties that a predicate speaks of are collected leaf by leaf, each added after those that are there already
unless it is one of them.  What is there already comes from all leaves further to the left, in whatever branch.

So what is collected is compared with the names that all leaves so far mention (`Firsts`): it is the same names, in the
order in which they come up first.  One name more keeps this (`Firsts.addName`), and so does a predicate with all its
leaves (`Firsts.collect`, by induction on the predicate), whatever was collected before.

A predicate that becomes a filter has an attribute for each property, and its filter is about these attributes and no
others (`behind_of_toFilter`).  A leaf with several values names its attribute several times, so the two lists need not
be equally long.
-/
namespace DirectoryAccess

variable {ε : Type}

/-- Each property is kept in one of the attributes, and behind each attribute is one of the properties. -/
structure Schema.Behind (s : Schema ε) (properties attrs : List String) : Prop where
  kept : ∀ property ∈ properties, ∃ attr ∈ attrs, s.attrOf? property = some attr
  named : ∀ attr ∈ attrs, ∃ property ∈ properties, s.attrOf? property = some attr

namespace Schema.Behind

variable {s : Schema ε} {properties properties' attrs attrs' : List String}

theorem nil (s : Schema ε) : s.Behind [] [] where
  kept := fun _ h => by cases h
  named := fun _ h => by cases h

theorem append (h : s.Behind properties attrs) (h' : s.Behind properties' attrs') :
    s.Behind (properties ++ properties') (attrs ++ attrs') := by
  constructor
  · intro property hproperty
    rcases List.mem_append.1 hproperty with hleft | hright
    · obtain ⟨attr, hattr, hkept⟩ := h.kept property hleft
      exact ⟨attr, List.mem_append_left _ hattr, hkept⟩
    · obtain ⟨attr, hattr, hkept⟩ := h'.kept property hright
      exact ⟨attr, List.mem_append_right _ hattr, hkept⟩
  · intro attr hattr
    rcases List.mem_append.1 hattr with hleft | hright
    · obtain ⟨property, hproperty, hkept⟩ := h.named attr hleft
      exact ⟨property, List.mem_append_left _ hproperty, hkept⟩
    · obtain ⟨property, hproperty, hkept⟩ := h'.named attr hright
      exact ⟨property, List.mem_append_right _ hproperty, hkept⟩

/-- One property, however often its attribute is there. -/
theorem of_attrOf {property attr : String} (h : s.attrOf property = .ok attr) (hattrs : ∀ a, a ∈ attrs ↔ a = attr) :
    s.Behind [property] attrs := by
  have hkept : s.attrOf? property = some attr := Schema.attrOf_eq_ok_iff.1 h
  constructor
  · intro q hq
    obtain rfl := List.mem_singleton.1 hq
    exact ⟨attr, (hattrs attr).2 rfl, hkept⟩
  · intro a ha
    obtain rfl := (hattrs a).1 ha
    exact ⟨property, List.mem_singleton_self property, hkept⟩

theorem congr (h : s.Behind properties attrs) (hsame : ∀ property, property ∈ properties' ↔ property ∈ properties) :
    s.Behind properties' attrs := by
  constructor
  · intro property hproperty
    exact h.kept property ((hsame property).1 hproperty)
  · intro attr hattr
    obtain ⟨property, hproperty, hkept⟩ := h.named attr hattr
    exact ⟨property, (hsame property).2 hproperty, hkept⟩

end Schema.Behind

namespace Predicate

mutual

/-- The property of every leaf, from left to right. -/
def mentions : Predicate → List String
  | .compare _ property _ => [property]
  | .resembles _ property _ => [property]
  | .oneOf property _ => [property]
  | .isNull property => [property]
  | .isNotNull property => [property]
  | .all ps => mentionsOfAll ps
  | .any ps => mentionsOfAll ps
  | .not p => mentions p

def mentionsOfAll : List Predicate → List String
  | [] => []
  | p :: ps => mentions p ++ mentionsOfAll ps

end

/-! ## In the order of their first occurrence -/

/-- The names that are mentioned, each once, one that comes up earlier before one that comes up later. -/
structure Firsts (mentioned names : List String) : Prop where
  mem : ∀ name, name ∈ names ↔ name ∈ mentioned
  ordered : names.Pairwise (fun a b => mentioned.idxOf a < mentioned.idxOf b)

namespace Firsts

theorem nil : Firsts [] [] := ⟨fun _ => Iff.rfl, List.Pairwise.nil⟩

theorem nodup {mentioned names : List String} (h : Firsts mentioned names) : names.Nodup := by
  refine List.nodup_iff_pairwise_ne.2 (h.ordered.imp ?_)
  rintro a b hlt rfl
  exact Nat.lt_irrefl _ hlt

/-- One name more that is mentioned is added if it is new. -/
theorem addName {mentioned names : List String} (h : Firsts mentioned names) (name : String) :
    Firsts (mentioned ++ [name]) (Predicate.addName names name) := by
  have hkept : names.Pairwise (fun a b => (mentioned ++ [name]).idxOf a < (mentioned ++ [name]).idxOf b) := by
    refine h.ordered.imp_of_mem (fun {a b} ha hb hlt => ?_)
    rwa [List.idxOf_append_of_mem ((h.mem a).1 ha), List.idxOf_append_of_mem ((h.mem b).1 hb)]
  unfold Predicate.addName
  by_cases hold : name ∈ names
  · rw [if_pos (List.contains_iff_mem.2 hold)]
    refine ⟨fun n => ?_, hkept⟩
    rw [List.mem_append, List.mem_singleton, h.mem]
    constructor
    · exact Or.inl
    · rintro (hn | rfl)
      · exact hn
      · exact (h.mem n).1 hold
  · rw [if_neg (fun hc => hold (List.contains_iff_mem.1 hc))]
    refine ⟨fun n => ?_, List.pairwise_append.2 ⟨hkept, List.pairwise_singleton _ _, fun a ha b hb => ?_⟩⟩
    · rw [List.mem_append, List.mem_append, h.mem]
    · -- What was mentioned before stands before the end, and the new name comes up there first.
      obtain rfl := List.mem_singleton.1 hb
      have hnew : b ∉ mentioned := fun hb => hold ((h.mem b).2 hb)
      rw [List.idxOf_append_of_mem ((h.mem a).1 ha), List.idxOf_append_of_notMem hnew]
      exact Nat.lt_add_right _ (List.idxOf_lt_length_of_mem ((h.mem a).1 ha))

mutual

/-- **Collecting adds what the leaves mention**, in the order of their first occurrence. -/
theorem collect {mentioned names : List String} : ∀ p : Predicate, Firsts mentioned names →
    Firsts (mentioned ++ p.mentions) (p.collect names)
  | .compare _ property _, h => h.addName property
  | .resembles _ property _, h => h.addName property
  | .oneOf property _, h => h.addName property
  | .isNull property, h => h.addName property
  | .isNotNull property, h => h.addName property
  | .all ps, h => collectAll ps h
  | .any ps, h => collectAll ps h
  | .not p, h => collect p h

theorem collectAll {mentioned names : List String} : ∀ ps : List Predicate, Firsts mentioned names →
    Firsts (mentioned ++ mentionsOfAll ps) (Predicate.collectAll ps names)
  | [], h => by
    rw [mentionsOfAll, List.append_nil]
    exact h
  | p :: ps, h => by
    rw [mentionsOfAll, ← List.append_assoc]
    exact collectAll ps (collect p h)

end

end Firsts

theorem firsts_properties (p : Predicate) : Firsts p.mentions p.properties := Firsts.nil.collect p

/-! ## The attributes of the filter -/

theorem attributes_comparisonFilter (c : Comparison) (attr value : String) :
    (comparisonFilter c attr value).attributes = [attr] := by cases c <;> rfl

theorem attributes_pattern (attr text : String) (mark : Char) : (Filter.pattern attr text mark).attributes = [attr] := by
  unfold Filter.pattern
  split
  · split <;> rfl
  · rfl

theorem attributes_resemblanceFilter (r : Resemblance) (attr text : String) :
    (resemblanceFilter r attr text).attributes = [attr] := by
  cases r with
  | like => exact attributes_pattern attr text '%'
  | startsWith => rfl
  | endsWith => rfl
  | contains => rfl

theorem attributesOfAll_equals (attr : String) : ∀ texts : List String,
    Filter.attributesOfAll (texts.map (Filter.equals attr)) = texts.map (fun _ => attr)
  | [] => rfl
  | _ :: texts => congrArg (attr :: ·) (attributesOfAll_equals attr texts)

theorem mem_attributes_oneOfFilter {property attr : String} : ∀ {texts : List String} {f : Filter},
    oneOfFilter property attr texts = .ok f → ∀ a, a ∈ f.attributes ↔ a = attr
  | [], f, h, _ => by cases h
  | [t], f, h, a => by
    obtain rfl : Filter.equals attr t = f := Except.ok.inj h
    exact List.mem_singleton
  | t :: t' :: texts, f, h, a => by
    obtain rfl : Filter.any ((t :: t' :: texts).map (Filter.equals attr)) = f := Except.ok.inj h
    rw [Filter.attributes, attributesOfAll_equals, List.mem_map]
    constructor
    · rintro ⟨-, -, rfl⟩
      rfl
    · rintro rfl
      exact ⟨t, List.mem_cons_self, rfl⟩

mutual

/-- **The filter is about the attributes behind the properties of the leaves.** -/
theorem behind_of_toFilter (s : Schema ε) : ∀ (p : Predicate) (f : Filter), p.toFilter s = .ok f →
    s.Behind p.mentions f.attributes
  | .compare c property value, f, h => by
    obtain ⟨attr, hattr, h⟩ := bind_eq_ok_iff.1 h
    obtain ⟨t, -, h⟩ := bind_eq_ok_iff.1 h
    obtain rfl : comparisonFilter c attr t = f := Except.ok.inj h
    rw [attributes_comparisonFilter]
    exact .of_attrOf hattr (fun a => List.mem_singleton)
  | .resembles r property text, f, h => by
    obtain ⟨attr, hattr, h⟩ := bind_eq_ok_iff.1 h
    obtain rfl : resemblanceFilter r attr text = f := Except.ok.inj h
    rw [attributes_resemblanceFilter]
    exact .of_attrOf hattr (fun a => List.mem_singleton)
  | .oneOf property values, f, h => by
    obtain ⟨attr, hattr, h⟩ := bind_eq_ok_iff.1 h
    obtain ⟨texts, -, h⟩ := bind_eq_ok_iff.1 h
    exact .of_attrOf hattr (mem_attributes_oneOfFilter h)
  | .isNull property, f, h => by
    obtain ⟨attr, hattr, h⟩ := bind_eq_ok_iff.1 h
    obtain rfl : Filter.not (.present attr) = f := Except.ok.inj h
    exact .of_attrOf hattr (fun a => List.mem_singleton)
  | .isNotNull property, f, h => by
    obtain ⟨attr, hattr, h⟩ := bind_eq_ok_iff.1 h
    obtain rfl : Filter.present attr = f := Except.ok.inj h
    exact .of_attrOf hattr (fun a => List.mem_singleton)
  | .all ps, _, h => by
    obtain ⟨fs, hfs, rfl⟩ := exists_of_toFilter_all h
    exact behind_of_toFilters s ps fs hfs
  | .any ps, _, h => by
    obtain ⟨fs, hfs, rfl⟩ := exists_of_toFilter_any h
    exact behind_of_toFilters s ps fs hfs
  | .not p, f, h => by
    obtain ⟨g, hg, h⟩ := bind_eq_ok_iff.1 h
    obtain rfl : Filter.not g = f := Except.ok.inj h
    exact behind_of_toFilter s p g hg

theorem behind_of_toFilters (s : Schema ε) : ∀ (ps : List Predicate) (fs : List Filter), toFilters s ps = .ok fs →
    s.Behind (mentionsOfAll ps) (Filter.attributesOfAll fs)
  | [], fs, h => by
    obtain rfl : [] = fs := Except.ok.inj h
    exact .nil s
  | p :: ps, _, h => by
    obtain ⟨f, gs, hf, hgs, rfl⟩ := exists_of_toFilters_cons h
    exact (behind_of_toFilter s p f hf).append (behind_of_toFilters s ps gs hgs)

end

/-- **The properties of a predicate are those of its leaves**, each once, in the order in which they come up first from
the left; and the filter that is made of the predicate is about the attributes behind them. -/
theorem properties_exact (s : Schema ε) (p : Predicate) :
    p.properties.Nodup ∧ (∀ property, property ∈ p.properties ↔ property ∈ p.mentions) ∧
      p.properties.Pairwise (fun q r => p.mentions.idxOf q < p.mentions.idxOf r) ∧
      ∀ f, p.compile s = .ok f → s.Behind p.properties f.attributes := by
  have hfirsts := p.firsts_properties
  refine ⟨hfirsts.nodup, hfirsts.mem, hfirsts.ordered, fun f hf => ?_⟩
  exact (behind_of_toFilter s p f (mapError_eq_ok_iff.1 hf)).congr hfirsts.mem

/-- Someone whose name begins with a letter, with one of two addresses or no number, and with no number below another. -/
def sought : Predicate :=
  .all [.not (.compare .below "number" (.integer 7)),
    .any [.oneOf "address" [.text "a@x", .text "b@x"], .isNull "number"], .resembles .like "name" "J%"]

def soughtFilter : Filter :=
  .all [.not (.test .below "employeeNumber" "7"),
    .any [.any [.equals "mail" "a@x", .equals "mail" "b@x"], .not (.present "employeeNumber")],
    .substring "cn" (some "J") [] none]

/-- A property that comes up again in another branch is listed where it came up first. -/
theorem properties_exact_sought : sought.mentions = ["number", "address", "number", "name"] ∧
    sought.properties = ["number", "address", "name"] ∧ sought.compile persons = .ok soughtFilter ∧
    soughtFilter.attributes = ["employeeNumber", "mail", "mail", "employeeNumber", "cn"] ∧
    persons.Behind sought.properties soughtFilter.attributes := by
  have hcompile : sought.compile persons = .ok soughtFilter := rfl
  exact ⟨rfl, by decide, hcompile, rfl, (properties_exact persons sought).2.2.2 soughtFilter hcompile⟩

end Predicate
end DirectoryAccess
