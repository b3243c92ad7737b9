import DirectoryAccess.Filter.Matching
import DirectoryAccess.Predicate.Filter
import DirectoryAccess.Proofs.Filter.Pieces
import DirectoryAccess.Proofs.Outcome
import DirectoryAccess.Proofs.Text.Case
import Mathlib.Data.String.Basic
/-!
# What predicates mean

`Predicate.Holds` evaluates a predicate on attributes with no filter in between: a leaf looks at the texts of the
attribute behind its property, and all, any and not are what they are in logic.  Texts are equal when their lower-case
forms are.  How a text resembles another is left open there, since case can be set aside in two ways
(`Resemblance.asWhole`, `Resemblance.partByPart`).

A predicate that compiles becomes a filter that selects what the predicate means when values are put in lower case as a
whole (`Predicate.selects_of_toFilter`, by induction on the predicate).  It is what the predicate means part by part
too, as long as the values that are asked for a resemblance have neither a capital sigma nor a capital I with a dot
above.  The condition is needed: with a capital sigma a value may not even start with itself less its last letter.
-/
namespace DirectoryAccess

variable {ε : Type}

/-- The texts of the attribute behind a property: none where there is no attribute. -/
def Schema.textsBehind (s : Schema ε) (as : Attributes) (property : String) : List String :=
  match s.property? property with
  | some p => as.textsOf p.attr
  | none => []

namespace Schema

theorem attrOf?_eq_some_iff {s : Schema ε} {property attr : String} :
    s.attrOf? property = some attr ↔ ∃ p, s.property? property = some p ∧ p.isStored = true ∧ p.attr = attr := by
  simp only [attrOf?, Option.map_eq_some_iff, Option.filter_eq_some_iff, and_assoc]

/-- The attribute that a predicate needs is the one behind the property, if there is one. -/
theorem attrOf_eq_ok_iff {s : Schema ε} {property attr : String} :
    s.attrOf property = .ok attr ↔ s.attrOf? property = some attr := by
  unfold attrOf attrOf?
  cases s.property? property with
  | none => simp
  | some p => cases hstored : p.isStored <;> simp [hstored]

end Schema

/-! ## Leaves -/

/-- One text comes before another: as numbers where both are numerals, and in lower case otherwise. -/
def Precedes (x y : String) : Prop :=
  match Text.readInt64Trimmed x, Text.readInt64Trimmed y with
  | some m, some n => m < n
  | _, _ => Text.lower x < Text.lower y

/-- Some text stands to the asserted one as the comparison says; for `different`, none equals it. -/
def Comparison.Holds (c : Comparison) (asserted : String) (xs : List String) : Prop :=
  match c with
  | .equal => ∃ x ∈ xs, Text.lower x = Text.lower asserted
  | .different => ¬ ∃ x ∈ xs, Text.lower x = Text.lower asserted
  | .atLeast => ∃ x ∈ xs, ¬ Precedes x asserted
  | .atMost => ∃ x ∈ xs, ¬ Precedes asserted x
  | .above => ∃ x ∈ xs, Precedes asserted x
  | .below => ∃ x ∈ xs, Precedes x asserted

namespace Resemblance

/-- Parts of `cs` fit the asserted text where the resemblance wants them: in front, at the end, anywhere, or with any run
for each percent sign. -/
def Fits (r : Resemblance) (fits : List Char → List Char → Prop) (asserted cs : List Char) : Prop :=
  match r with
  | .like => Text.Like fits '%' asserted cs
  | .startsWith => ∃ part rest, cs = part ++ rest ∧ fits part asserted
  | .endsWith => ∃ run part, cs = run ++ part ∧ fits part asserted
  | .contains => ∃ run part rest, cs = run ++ (part ++ rest) ∧ fits part asserted

/-- The value is put in lower case, and parts of that are compared. -/
def asWhole (r : Resemblance) (asserted value : String) : Prop :=
  r.Fits Text.IsLowerOf asserted.toList (Text.lowerChars value.toList)

/-- Parts of the value itself are compared, each of them ignoring case. -/
def partByPart (r : Resemblance) (asserted value : String) : Prop :=
  r.Fits Text.AlikeIgnoringCase asserted.toList value.toList

theorem asWhole_iff_partByPart (r : Resemblance) (asserted : String) {value : String}
    (h : Text.LetterByLetter value.toList) : r.asWhole asserted value ↔ r.partByPart asserted value := by
  have hany (rest : List Char) (_ : Text.LetterByLetter rest) : True ↔ True := Iff.rfl
  cases r with
  | like => exact Text.like_lowerChars_iff h
  | startsWith =>
    simpa [asWhole, partByPart, Fits] using Text.starts_lowerChars_iff h (fun _ => True) (fun _ => True) hany
  | endsWith =>
    simpa [asWhole, partByPart, Fits] using
      Text.follows_lowerChars_iff h (· = []) (· = []) (fun _ hrest => Text.lowerChars_eq_nil_iff hrest)
  | contains =>
    simpa [asWhole, partByPart, Fits] using Text.follows_lowerChars_iff h (fun _ => True) (fun _ => True) hany

end Resemblance

/-! ## Predicates -/

namespace Predicate

section

variable (reads : Resemblance → String → String → Prop) (s : Schema ε) (as : Attributes)

mutual

/-- The predicate holds of the attributes, where `reads` says when a value resembles an asserted text. -/
def Holds : Predicate → Prop
  | .compare c property value => ∃ t, value.texts = [t] ∧ c.Holds t (s.textsBehind as property)
  | .resembles r property text => ∃ x ∈ s.textsBehind as property, reads r text x
  | .oneOf property values =>
    ∃ x ∈ s.textsBehind as property, ∃ v ∈ values, ∃ t, v.texts = [t] ∧ Text.lower x = Text.lower t
  | .isNull property => s.textsBehind as property = []
  | .isNotNull property => s.textsBehind as property ≠ []
  | .all ps => HoldsAll ps
  | .any ps => HoldsAny ps
  | .not p => ¬ Holds p

def HoldsAll : List Predicate → Prop
  | [] => True
  | p :: ps => Holds p ∧ HoldsAll ps

def HoldsAny : List Predicate → Prop
  | [] => False
  | p :: ps => Holds p ∨ HoldsAny ps

end

mutual

/-- The properties of which the predicate asks a resemblance. -/
def resembled : Predicate → List String
  | .compare _ _ _ => []
  | .resembles _ property _ => [property]
  | .oneOf _ _ => []
  | .isNull _ => []
  | .isNotNull _ => []
  | .all ps => resembledOfAll ps
  | .any ps => resembledOfAll ps
  | .not p => resembled p

def resembledOfAll : List Predicate → List String
  | [] => []
  | p :: ps => resembled p ++ resembledOfAll ps

end

mutual

/-- Two readings under which the same values resemble the same texts give one meaning. -/
theorem holds_congr {reads reads' : Resemblance → String → String → Prop} : ∀ p : Predicate,
    (∀ q ∈ p.resembled, ∀ x ∈ s.textsBehind as q, ∀ r text, reads r text x ↔ reads' r text x) →
      (p.Holds reads s as ↔ p.Holds reads' s as)
  | .compare _ _ _, _ => Iff.rfl
  | .resembles r property text, h => by
    have hproperty : ∀ x ∈ s.textsBehind as property, reads r text x ↔ reads' r text x := fun x hx =>
      h property (by simp [resembled]) x hx r text
    constructor
    · rintro ⟨x, hx, hreads⟩
      exact ⟨x, hx, (hproperty x hx).1 hreads⟩
    · rintro ⟨x, hx, hreads⟩
      exact ⟨x, hx, (hproperty x hx).2 hreads⟩
  | .oneOf _ _, _ => Iff.rfl
  | .isNull _, _ => Iff.rfl
  | .isNotNull _, _ => Iff.rfl
  | .all ps, h => holdsAll_congr ps h
  | .any ps, h => holdsAny_congr ps h
  | .not p, h => not_congr (holds_congr p h)

theorem holdsAll_congr {reads reads' : Resemblance → String → String → Prop} : ∀ ps : List Predicate,
    (∀ q ∈ resembledOfAll ps, ∀ x ∈ s.textsBehind as q, ∀ r text, reads r text x ↔ reads' r text x) →
      (HoldsAll reads s as ps ↔ HoldsAll reads' s as ps)
  | [], _ => Iff.rfl
  | p :: ps, h => by
    simp only [resembledOfAll, List.mem_append] at h
    exact and_congr (holds_congr p (fun q hq => h q (.inl hq))) (holdsAll_congr ps (fun q hq => h q (.inr hq)))

theorem holdsAny_congr {reads reads' : Resemblance → String → String → Prop} : ∀ ps : List Predicate,
    (∀ q ∈ resembledOfAll ps, ∀ x ∈ s.textsBehind as q, ∀ r text, reads r text x ↔ reads' r text x) →
      (HoldsAny reads s as ps ↔ HoldsAny reads' s as ps)
  | [], _ => Iff.rfl
  | p :: ps, h => by
    simp only [resembledOfAll, List.mem_append] at h
    exact or_congr (holds_congr p (fun q hq => h q (.inl hq))) (holdsAny_congr ps (fun q hq => h q (.inr hq)))

end

end

end Predicate

/-! ## Leaves as filters -/

theorem compareTexts_iff (x y : String) :
    (compareTexts x y = .lt ↔ Precedes x y) ∧ (compareTexts x y = .gt ↔ Precedes y x) := by
  unfold compareTexts Precedes
  cases Text.readInt64Trimmed x with
  | none => cases Text.readInt64Trimmed y <;> exact ⟨compare_lt_iff_lt, compare_gt_iff_gt⟩
  | some m =>
    cases Text.readInt64Trimmed y with
    | none => exact ⟨compare_lt_iff_lt, compare_gt_iff_gt⟩
    | some n => exact ⟨Std.compare_eq_lt, Std.compare_eq_gt⟩

theorem accepts_startsWith_iff (asserted x : String) :
    Test.startsWith.accepts asserted x = true ↔ Resemblance.startsWith.asWhole asserted x := by
  rw [Test.accepts, List.isPrefixOf_iff_prefix]
  constructor
  · rintro ⟨rest, hrest⟩
    exact ⟨_, rest, hrest.symm, rfl⟩
  · rintro ⟨part, rest, hx, rfl⟩
    exact ⟨rest, hx.symm⟩

theorem accepts_endsWith_iff (asserted x : String) :
    Test.endsWith.accepts asserted x = true ↔ Resemblance.endsWith.asWhole asserted x := by
  rw [Test.accepts, List.isSuffixOf_iff_suffix]
  constructor
  · rintro ⟨run, hrun⟩
    exact ⟨run, _, hrun.symm, rfl⟩
  · rintro ⟨run, part, hx, rfl⟩
    exact ⟨run, hx.symm⟩

theorem accepts_contains_iff (asserted x : String) :
    Test.contains.accepts asserted x = true ↔ Resemblance.contains.asWhole asserted x := by
  rw [Test.accepts, Text.occurs_iff]
  constructor
  · rintro ⟨run, rest, hx⟩
    exact ⟨run, _, rest, hx, rfl⟩
  · rintro ⟨run, part, rest, hx, rfl⟩
    exact ⟨run, rest, hx⟩

namespace Predicate

theorem selects_comparisonFilter (c : Comparison) (attr value : String) (as : Attributes) :
    (comparisonFilter c attr value).selects as = true ↔ c.Holds value (as.textsOf attr) := by
  have hequals : (Filter.equals attr value).selects as = true ↔
      ∃ x ∈ as.textsOf attr, Text.lower x = Text.lower value := by
    simp [Filter.equals, Filter.selects, Test.accepts]
  have hbefore (x : String) := (compareTexts_iff x value).1
  have hafter (x : String) := (compareTexts_iff x value).2
  cases c with
  | equal => exact hequals
  | different =>
    rw [comparisonFilter, Filter.selects_not, Bool.not_eq_true', ← Bool.not_eq_true]
    exact not_congr hequals
  | atLeast => simp [comparisonFilter, Filter.selects, Test.accepts, Comparison.Holds, ← hbefore]
  | atMost => simp [comparisonFilter, Filter.selects, Test.accepts, Comparison.Holds, ← hafter]
  | above => simp [comparisonFilter, Filter.selects, Test.accepts, Comparison.Holds, ← hafter]
  | below => simp [comparisonFilter, Filter.selects, Test.accepts, Comparison.Holds, ← hbefore]

theorem selects_resemblanceFilter (r : Resemblance) (attr text : String) (as : Attributes) :
    (resemblanceFilter r attr text).selects as = true ↔ ∃ x ∈ as.textsOf attr, r.asWhole text x := by
  cases r with
  | like => exact Filter.selects_pattern_iff attr text '%' as
  | startsWith => simp only [resemblanceFilter, Filter.selects, List.any_eq_true, accepts_startsWith_iff]
  | endsWith => simp only [resemblanceFilter, Filter.selects, List.any_eq_true, accepts_endsWith_iff]
  | contains => simp only [resemblanceFilter, Filter.selects, List.any_eq_true, accepts_contains_iff]

theorem selects_oneOfFilter {property attr : String} {as : Attributes} : ∀ {texts : List String} {f : Filter},
    oneOfFilter property attr texts = .ok f →
      (f.selects as = true ↔ ∃ x ∈ as.textsOf attr, ∃ t ∈ texts, Text.lower x = Text.lower t)
  | [], f, h => by cases h
  | [t], f, h => by
    obtain rfl : Filter.equals attr t = f := Except.ok.inj h
    simp [Filter.equals, Filter.selects, Test.accepts]
  | t :: t' :: texts, f, h => by
    obtain rfl : Filter.any ((t :: t' :: texts).map (Filter.equals attr)) = f := Except.ok.inj h
    rw [Filter.selects_any, List.any_map, List.any_eq_true]
    simp only [Function.comp, Filter.equals, Filter.selects, Test.accepts, List.any_eq_true, beq_iff_eq]
    constructor
    · rintro ⟨t, ht, x, hx, heq⟩
      exact ⟨x, hx, t, ht, heq⟩
    · rintro ⟨x, hx, t, ht, heq⟩
      exact ⟨t, ht, x, hx, heq⟩

theorem selects_present_iff (attr : String) (as : Attributes) :
    (Filter.present attr).selects as = true ↔ as.textsOf attr ≠ [] := by
  simp [Filter.selects]

/-! ## A predicate and its filter -/

theorem attrOf_eq_ok {s : Schema ε} {property attr : String} (h : s.attrOf property = .ok attr) (as : Attributes) :
    s.textsBehind as property = as.textsOf attr := by
  obtain ⟨p, hp, -, rfl⟩ := Schema.attrOf?_eq_some_iff.1 (Schema.attrOf_eq_ok_iff.1 h)
  rw [Schema.textsBehind, hp]

theorem operand_eq_ok_iff {property : String} {v : Value} {t : String} :
    operand property v = .ok t ↔ v.texts = [t] := by
  unfold operand
  split
  · rename_i s hs
    simp [hs]
  · rename_i hmany
    constructor
    · intro h
      cases h
    · intro h
      exact absurd h (hmany t)

/-- Equality with one of the texts that the values have is equality with one of the values. -/
theorem exists_operand_iff {property : String} (P : String → Prop) : ∀ {values : List Value} {texts : List String},
    values.mapM (operand property) = .ok texts →
      ((∃ t ∈ texts, P t) ↔ ∃ v ∈ values, ∃ t, v.texts = [t] ∧ P t)
  | [], texts, h => by
    obtain rfl : [] = texts := Except.ok.inj h
    simp
  | v :: values, texts, h => by
    obtain ⟨t, texts, rfl, ht, htexts⟩ := mapM_eq_ok_cons h
    have hv : v.texts = [t] := operand_eq_ok_iff.1 ht
    simp [exists_operand_iff P htexts, hv]

/-- A conjunction becomes that of what its members become. -/
theorem exists_of_toFilter_all {s : Schema ε} {ps : List Predicate} {f : Filter}
    (h : (Predicate.all ps).toFilter s = .ok f) : ∃ fs, toFilters s ps = .ok fs ∧ .all fs = f := by
  rw [toFilter] at h
  split at h
  · cases h
  · obtain ⟨fs, hfs, h⟩ := bind_eq_ok_iff.1 h
    exact ⟨fs, hfs, Except.ok.inj h⟩

theorem exists_of_toFilter_any {s : Schema ε} {ps : List Predicate} {f : Filter}
    (h : (Predicate.any ps).toFilter s = .ok f) : ∃ fs, toFilters s ps = .ok fs ∧ .any fs = f := by
  rw [toFilter] at h
  split at h
  · cases h
  · obtain ⟨fs, hfs, h⟩ := bind_eq_ok_iff.1 h
    exact ⟨fs, hfs, Except.ok.inj h⟩

theorem exists_of_toFilters_cons {s : Schema ε} {p : Predicate} {ps : List Predicate} {fs : List Filter}
    (h : toFilters s (p :: ps) = .ok fs) : ∃ f gs, p.toFilter s = .ok f ∧ toFilters s ps = .ok gs ∧ f :: gs = fs := by
  obtain ⟨f, hf, h⟩ := bind_eq_ok_iff.1 h
  obtain ⟨gs, hgs, h⟩ := bind_eq_ok_iff.1 h
  exact ⟨f, gs, hf, hgs, Except.ok.inj h⟩

mutual

/-- **A predicate becomes a filter that selects what the predicate means.** -/
theorem selects_of_toFilter (s : Schema ε) (as : Attributes) : ∀ (p : Predicate) (f : Filter),
    p.toFilter s = .ok f → (f.selects as = true ↔ p.Holds Resemblance.asWhole s as)
  | .compare c property value, f, h => by
    obtain ⟨attr, hattr, h⟩ := bind_eq_ok_iff.1 h
    obtain ⟨t, ht, h⟩ := bind_eq_ok_iff.1 h
    obtain rfl : comparisonFilter c attr t = f := Except.ok.inj h
    rw [selects_comparisonFilter, Holds, attrOf_eq_ok hattr, operand_eq_ok_iff.1 ht]
    simp
  | .resembles r property text, f, h => by
    obtain ⟨attr, hattr, h⟩ := bind_eq_ok_iff.1 h
    obtain rfl : resemblanceFilter r attr text = f := Except.ok.inj h
    rw [selects_resemblanceFilter, Holds, attrOf_eq_ok hattr]
  | .oneOf property values, f, h => by
    obtain ⟨attr, hattr, h⟩ := bind_eq_ok_iff.1 h
    obtain ⟨texts, htexts, h⟩ := bind_eq_ok_iff.1 h
    rw [selects_oneOfFilter h, Holds, attrOf_eq_ok hattr]
    simp only [exists_operand_iff _ htexts]
  | .isNull property, f, h => by
    obtain ⟨attr, hattr, h⟩ := bind_eq_ok_iff.1 h
    obtain rfl : Filter.not (.present attr) = f := Except.ok.inj h
    rw [Filter.selects_not, Bool.not_eq_true', ← Bool.not_eq_true, selects_present_iff, Holds, attrOf_eq_ok hattr,
      not_not]
  | .isNotNull property, f, h => by
    obtain ⟨attr, hattr, h⟩ := bind_eq_ok_iff.1 h
    obtain rfl : Filter.present attr = f := Except.ok.inj h
    rw [selects_present_iff, Holds, attrOf_eq_ok hattr]
  | .all ps, _, h => by
    obtain ⟨fs, hfs, rfl⟩ := exists_of_toFilter_all h
    exact (selects_of_toFilters s as ps fs hfs).1
  | .any ps, _, h => by
    obtain ⟨fs, hfs, rfl⟩ := exists_of_toFilter_any h
    exact (selects_of_toFilters s as ps fs hfs).2
  | .not p, f, h => by
    obtain ⟨g, hg, h⟩ := bind_eq_ok_iff.1 h
    obtain rfl : Filter.not g = f := Except.ok.inj h
    rw [Filter.selects_not, Bool.not_eq_true', ← Bool.not_eq_true]
    exact not_congr (selects_of_toFilter s as p g hg)

theorem selects_of_toFilters (s : Schema ε) (as : Attributes) : ∀ (ps : List Predicate) (fs : List Filter),
    toFilters s ps = .ok fs →
      (Filter.selectsAll fs as = true ↔ HoldsAll Resemblance.asWhole s as ps) ∧
        (Filter.selectsAny fs as = true ↔ HoldsAny Resemblance.asWhole s as ps)
  | [], fs, h => by
    obtain rfl : [] = fs := Except.ok.inj h
    simp [Filter.selectsAll, Filter.selectsAny, HoldsAll, HoldsAny]
  | p :: ps, _, h => by
    obtain ⟨f, gs, hf, hgs, rfl⟩ := exists_of_toFilters_cons h
    obtain ⟨hall, hany⟩ := selects_of_toFilters s as ps gs hgs
    rw [Filter.selectsAll, Filter.selectsAny, HoldsAll, HoldsAny, Bool.and_eq_true, Bool.or_eq_true,
      selects_of_toFilter s as p f hf, hall, hany]
    exact ⟨Iff.rfl, Iff.rfl⟩

end

/-- **What the filter of a predicate selects.**  It is what the predicate means with values put in lower case as a whole.
It is what the predicate means part by part too, unless a value that is asked for a resemblance has a capital sigma or a
capital I with a dot above. -/
theorem selects_compile_iff {s : Schema ε} {p : Predicate} {f : Filter} (h : p.compile s = .ok f) (as : Attributes) :
    (f.selects as = true ↔ p.Holds Resemblance.asWhole s as) ∧
      ((∀ q ∈ p.resembled, ∀ x ∈ s.textsBehind as q, Text.LetterByLetter x.toList) →
        (f.selects as = true ↔ p.Holds Resemblance.partByPart s as)) := by
  have hwhole := selects_of_toFilter s as p f (mapError_eq_ok_iff.1 h)
  refine ⟨hwhole, fun hletters => hwhole.trans ?_⟩
  exact holds_congr s as p (fun q hq x hx r text => r.asWhole_iff_partByPart text (hletters q hq x hx))

/-- Persons with a name, an address and a number. -/
def persons : Schema Unit where
  typeName := "Person"
  classes := ["person"]
  base := "ou=people"
  properties := [.id "dn", .naming "name" "cn", .plain "address" "mail", .plain "number" "employeeNumber"]
  id? := fun _ => none
  setId := fun _ e => e
  attributes := fun _ => .empty
  ofEntry := fun _ => .ok ()

/-- A pattern with characters that are no wildcards, one of two addresses, and a number that is not below another. -/
theorem selects_compile_named_person :
    (Predicate.all [.resembles .like "name" "J%N_*", .oneOf "address" [.text "b@x", .text "A@x"],
        .not (.compare .below "number" (.integer 7)), .compare .different "number" (.text "8")]).Holds
      Resemblance.partByPart persons
      ⟨[("CN", .list [.text "someone", .text "john_*"]), ("mail", .text "a@X"), ("employeeNumber", .text " 07 ")]⟩ :=
  ((selects_compile_iff (s := persons) rfl _).2 (by decide +kernel)).1 (by decide +kernel)

/-- A value that starts with the letters of the pattern is not selected: a capital sigma that ends the piece of the
pattern does not end the word in the value. -/
theorem not_selects_compile_iff :
    ¬ ∀ (s : Schema Unit) (p : Predicate) (f : Filter), p.compile s = .ok f →
      ∀ as : Attributes, f.selects as = true ↔ p.Holds Resemblance.partByPart s as := by
  intro h
  have heq := h persons (.resembles .like "name" "ΑΣ%") (.substring "cn" (some "ΑΣ") [] none) rfl
    ⟨[("cn", .text "ΑΣΑ")]⟩
  have hnot : (Filter.substring "cn" (some "ΑΣ") [] none).selects ⟨[("cn", .text "ΑΣΑ")]⟩ = false := by decide +kernel
  have hlike : (Predicate.resembles .like "name" "ΑΣ%").Holds Resemblance.partByPart persons
      ⟨[("cn", .text "ΑΣΑ")]⟩ :=
    ⟨"ΑΣΑ", List.mem_singleton.2 rfl, ['Α', 'Σ'], ['Α'], rfl, rfl, ['Α'], [], [], rfl, rfl, rfl⟩
  exact Bool.false_ne_true (hnot.symm.trans (heq.2 hlike))

end Predicate
end DirectoryAccess
