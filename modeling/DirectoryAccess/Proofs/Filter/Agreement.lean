import DirectoryAccess.Filter.Matching
import DirectoryAccess.Proofs.Filter.Unambiguous
/-!
# What a filter selects and what is written

A server evaluates what is written, that is the tree of a filter (`Core.selects`).  Every condition but the strict orders
selects what its tree selects.  A strict order is written as the order that is not strict, without equality, and the two
part in two ways.  Among several values one may be past the asserted text and another equal to it; and a value may
compare as equal without reading like the text, as `07` and `7` do.  Where neither happens the strict order is settled
(`Strict.settled`), and that is exactly where it selects what is written for it (`Strict.selects_filter_eq_iff`).

So a filter selects what its tree selects on an attribute set on which the strict orders in it are settled
(`Filter.selects_core`), and there filters that are written alike select alike.  The condition cannot be weakened: a
strict order and what it is written as are written alike and part wherever it is not settled.
-/
namespace DirectoryAccess

/-! ## What a tree selects -/

namespace Core

/-- A value `x` fulfils the written condition. -/
def accepts : Sign → List String → String → Bool
  | .equal, [value], x => Test.equals.accepts value x
  | .equal, first :: pieces, x => Filter.substringAccepts (some first) pieces.dropLast pieces.getLast? x
  | .atLeast, [value], x => Test.atLeast.accepts value x
  | .atMost, [value], x => Test.atMost.accepts value x
  | _, _, _ => false

mutual

def selects : Core → Attributes → Bool
  | .item attr sign pieces, as => (as.textsOf attr).any (accepts sign pieces)
  | .all cs, as => selectsAll cs as
  | .any cs, as => selectsAny cs as
  | .not c, as => !selects c as

def selectsAll : List Core → Attributes → Bool
  | [], _ => true
  | c :: cs, as => selects c as && selectsAll cs as

def selectsAny : List Core → Attributes → Bool
  | [], _ => false
  | c :: cs, as => selects c as || selectsAny cs as

end

theorem accepts_pieces (first : String) (middle : List String) (last x : String) :
    accepts .equal (first :: (middle ++ [last])) x = Filter.substringAccepts (some first) middle (some last) x := by
  cases h : middle ++ [last] with
  | nil => simp at h
  | cons p ps =>
    rw [accepts, ← h, List.dropLast_concat, List.getLast?_concat]
    simp

end Core

/-! ## Strict orders -/

theorem any_or {α : Type} (p q : α → Bool) : ∀ xs : List α, xs.any (fun x => p x || q x) = (xs.any p || xs.any q)
  | [] => rfl
  | x :: xs => by
    rw [List.any_cons, List.any_cons, List.any_cons, any_or p q xs]
    cases p x <;> cases q x <;> simp

/-- A strict order, upward or downward. -/
inductive Strict where
  | above (attr value : String)
  | below (attr value : String)

namespace Strict

def attr : Strict → String
  | .above attr _ => attr
  | .below attr _ => attr

def value : Strict → String
  | .above _ value => value
  | .below _ value => value

def test : Strict → Test
  | .above _ _ => .above
  | .below _ _ => .below

/-- The order that is not strict. -/
def weakTest : Strict → Test
  | .above _ _ => .atLeast
  | .below _ _ => .atMost

def filter (s : Strict) : Filter := .test s.test s.attr s.value

/-- The filter that a strict order is written as. -/
def spelledOut (s : Strict) : Filter := .all [.test s.weakTest s.attr s.value, .not (.equals s.attr s.value)]

/-- Where a value is past the asserted text none equals it, and elsewhere a value that compares as equal has one beside
it that equals the text. -/
def settled (s : Strict) (as : Attributes) : Bool :=
  let xs := as.textsOf s.attr
  if xs.any (s.test.accepts s.value) then !xs.any (Test.equals.accepts s.value)
  else !xs.any (fun x => compareTexts x s.value == .eq) || xs.any (Test.equals.accepts s.value)

/-- What is past the asserted text or compares as equal to it is what the order that is not strict accepts. -/
theorem accepts_weakTest (s : Strict) (x : String) :
    s.weakTest.accepts s.value x = (s.test.accepts s.value x || compareTexts x s.value == .eq) := by
  cases s with
  | above attr value =>
    simp only [weakTest, test, Strict.value, Test.accepts]
    cases compareTexts x value <;> rfl
  | below attr value =>
    simp only [weakTest, test, Strict.value, Test.accepts]
    cases compareTexts x value <;> rfl

theorem core_filter (s : Strict) : s.filter.core = s.spelledOut.core := by
  cases s <;> rfl

/-- **A strict order is written as the order that is not strict, without equality.** -/
theorem text_filter (s : Strict) : s.filter.text = s.spelledOut.text := Filter.text_eq_of_core_eq s.core_filter

theorem selects_filter (s : Strict) (as : Attributes) :
    s.filter.selects as = (as.textsOf s.attr).any (s.test.accepts s.value) := rfl

theorem selects_spelledOut (s : Strict) (as : Attributes) :
    s.spelledOut.selects as =
      (((as.textsOf s.attr).any (s.test.accepts s.value) ||
          (as.textsOf s.attr).any (fun x => compareTexts x s.value == .eq)) &&
        !(as.textsOf s.attr).any (Test.equals.accepts s.value)) := by
  have hweak : (as.textsOf s.attr).any (s.weakTest.accepts s.value) =
      ((as.textsOf s.attr).any (s.test.accepts s.value) ||
        (as.textsOf s.attr).any (fun x => compareTexts x s.value == .eq)) := by
    rw [← any_or]
    exact List.any_congr rfl s.accepts_weakTest
  simp only [spelledOut, Filter.selects, Filter.selectsAll, Filter.equals, Bool.and_true, hweak]

/-- **A strict order selects what is written for it exactly where it is settled.** -/
theorem selects_filter_eq_iff (s : Strict) (as : Attributes) :
    s.filter.selects as = s.spelledOut.selects as ↔ s.settled as = true := by
  rw [selects_filter, selects_spelledOut]
  simp only [settled]
  cases (as.textsOf s.attr).any (s.test.accepts s.value) <;>
    cases (as.textsOf s.attr).any (fun x => compareTexts x s.value == .eq) <;>
    cases (as.textsOf s.attr).any (Test.equals.accepts s.value) <;> decide

example : (Strict.above "uidNumber" "5").settled ⟨[("uidNumber", .text "05")]⟩ = false := by decide +kernel

end Strict

namespace Filter

/-- The strict orders among the comparisons. -/
def strictsOfTest (t : Test) (attr value : String) : List Strict :=
  match t with
  | .above => [.above attr value]
  | .below => [.below attr value]
  | _ => []

mutual

/-- The strict orders in a filter. -/
def stricts : Filter → List Strict
  | .test t attr value => strictsOfTest t attr value
  | .substring _ _ _ _ => []
  | .present _ => []
  | .all fs => strictsOfAll fs
  | .any fs => strictsOfAll fs
  | .not f => stricts f

def strictsOfAll : List Filter → List Strict
  | [] => []
  | f :: fs => stricts f ++ strictsOfAll fs

end

/-! ## A filter selects what its tree selects -/

theorem substringAccepts_empty (x : String) : substringAccepts (some "") [] (some "") x = true := by
  simp [substringAccepts, piecesIn, Text.after?, Text.afterEach?]

theorem substringAccepts_contains (value x : String) :
    substringAccepts (some "") [value] (some "") x = Test.contains.accepts value x := by
  simp only [substringAccepts, piecesIn, Test.accepts, Text.occurs, Text.after?, Text.afterEach?, Option.map_some,
    Option.getD_some, List.map_cons, List.map_nil]
  cases h : Text.afterFirst? (Text.lowerChars value.toList) (Text.lowerChars x.toList) <;> simp [h]

theorem substringAccepts_startsWith (value x : String) :
    substringAccepts (some value) [] (some "") x = Test.startsWith.accepts value x := by
  simp only [substringAccepts, piecesIn, Test.accepts, Text.after?, Option.map_some, Option.getD_some, List.map_nil]
  by_cases h : (Text.lowerChars value.toList).isPrefixOf (Text.lowerChars x.toList) = true
  · simp [h, Text.afterEach?]
  · simp [h]

theorem substringAccepts_endsWith (value x : String) :
    substringAccepts (some "") [] (some value) x = Test.endsWith.accepts value x := by
  simp [substringAccepts, piecesIn, Test.accepts, Text.after?, Text.afterEach?]

theorem substringAccepts_getD (initial : Option String) (middle : List String) (final : Option String) (x : String) :
    substringAccepts (some (initial.getD "")) middle (some (final.getD "")) x =
      substringAccepts initial middle final x := by
  cases initial <;> cases final <;> simp [substringAccepts, piecesIn]

theorem selects_strictly (s : Strict) (as : Attributes) : s.filter.core.selects as = s.spelledOut.selects as := by
  cases s <;> rfl

/-- A comparison that is not a strict order, and a strict order that is settled, selects what its tree selects. -/
theorem selects_coreOfTest (as : Attributes) (t : Test) (attr value : String)
    (h : ∀ s ∈ strictsOfTest t attr value, s.settled as = true) :
    (coreOfTest t attr value).selects as = (test t attr value).selects as := by
  cases t with
  | equals => rfl
  | atLeast => rfl
  | atMost => rfl
  | contains =>
    refine List.any_congr rfl (fun x => ?_)
    exact (Core.accepts_pieces "" [value] "" x).trans (substringAccepts_contains value x)
  | startsWith =>
    refine List.any_congr rfl (fun x => ?_)
    exact (Core.accepts_pieces value [] "" x).trans (substringAccepts_startsWith value x)
  | endsWith =>
    refine List.any_congr rfl (fun x => ?_)
    exact (Core.accepts_pieces "" [] value x).trans (substringAccepts_endsWith value x)
  | above =>
    have hs := h (.above attr value) (by simp [strictsOfTest])
    exact (selects_strictly (.above attr value) as).trans ((Strict.selects_filter_eq_iff _ as).2 hs).symm
  | below =>
    have hs := h (.below attr value) (by simp [strictsOfTest])
    exact (selects_strictly (.below attr value) as).trans ((Strict.selects_filter_eq_iff _ as).2 hs).symm

theorem selects_core_present (attr : String) (as : Attributes) :
    (present attr).core.selects as = (present attr).selects as := by
  have hall (x : String) : Core.accepts .equal ["", ""] x = true :=
    (Core.accepts_pieces "" [] "" x).trans (substringAccepts_empty x)
  simp only [core, Core.selects, selects, List.any_congr rfl hall]
  cases as.textsOf attr <;> simp

mutual

/-- **A filter selects what its tree selects**, where the strict orders in it are settled. -/
theorem selects_core (as : Attributes) : ∀ f : Filter, (∀ s ∈ f.stricts, s.settled as = true) →
    f.core.selects as = f.selects as
  | .test t attr value, h => selects_coreOfTest as t attr value h
  | .substring attr initial middle final, _ => by
    refine List.any_congr rfl (fun x => ?_)
    rw [Core.accepts_pieces, substringAccepts_getD]
  | .present attr, _ => selects_core_present attr as
  | .all fs, h => selectsAll_core as fs h
  | .any fs, h => selectsAny_core as fs h
  | .not f, h => by rw [core, Core.selects, selects, selects_core as f h]

theorem selectsAll_core (as : Attributes) : ∀ fs : List Filter, (∀ s ∈ strictsOfAll fs, s.settled as = true) →
    Core.selectsAll (coreOfAll fs) as = selectsAll fs as
  | [], _ => rfl
  | f :: fs, h => by
    simp only [strictsOfAll, List.mem_append] at h
    rw [coreOfAll, Core.selectsAll, selectsAll, selects_core as f (fun s hs => h s (.inl hs)),
      selectsAll_core as fs (fun s hs => h s (.inr hs))]

theorem selectsAny_core (as : Attributes) : ∀ fs : List Filter, (∀ s ∈ strictsOfAll fs, s.settled as = true) →
    Core.selectsAny (coreOfAll fs) as = selectsAny fs as
  | [], _ => rfl
  | f :: fs, h => by
    simp only [strictsOfAll, List.mem_append] at h
    rw [coreOfAll, Core.selectsAny, selectsAny, selects_core as f (fun s hs => h s (.inl hs)),
      selectsAny_core as fs (fun s hs => h s (.inr hs))]

end

mutual

theorem attr_mem_attributes {s : Strict} : ∀ f : Filter, s ∈ f.stricts → s.attr ∈ f.attributes
  | .test t attr value, h => by
    cases t <;> simp [stricts, strictsOfTest] at h <;> simp [h, Strict.attr, attributes]
  | .substring .., h => absurd h List.not_mem_nil
  | .present _, h => absurd h List.not_mem_nil
  | .all fs, h => attr_mem_attributesOfAll fs h
  | .any fs, h => attr_mem_attributesOfAll fs h
  | .not f, h => attr_mem_attributes f h

theorem attr_mem_attributesOfAll {s : Strict} : ∀ fs : List Filter, s ∈ strictsOfAll fs → s.attr ∈ attributesOfAll fs
  | [], h => absurd h List.not_mem_nil
  | f :: fs, h => by
    rw [strictsOfAll, List.mem_append] at h
    rw [attributesOfAll, List.mem_append]
    exact h.imp (attr_mem_attributes f) (attr_mem_attributesOfAll fs)

end

theorem attributes_strict (s : Strict) : s.filter.attributes = [s.attr] := by
  cases s <;> rfl

theorem attributes_spelledOut (s : Strict) : s.spelledOut.attributes = [s.attr, s.attr] := by
  cases s <;> rfl

theorem stricts_strict (s : Strict) : s.filter.stricts = [s] := by
  cases s <;> rfl

theorem stricts_spelledOut (s : Strict) : s.spelledOut.stricts = [] := by
  cases s <;> rfl

/-- **Filters that are written alike select alike exactly where strict orders are settled.**  The filters over plain
attributes whose strict orders are among `S` do so if and only if those of `S` are settled.  And a strict order selects
what the order without equality selects, as which it is written, exactly where it is settled. -/
theorem selects_eq_of_text_eq_iff (as : Attributes) (S : Strict → Prop) :
    ((∀ f g : Filter, (∀ a ∈ f.attributes ++ g.attributes, PlainAttribute a) → (∀ s ∈ f.stricts ++ g.stricts, S s) →
        f.text = g.text → f.selects as = g.selects as) ↔
      ∀ s, S s → PlainAttribute s.attr → s.settled as = true) ∧
    ∀ s : Strict, s.filter.text = s.spelledOut.text ∧
      (s.filter.selects as = s.spelledOut.selects as ↔ s.settled as = true) := by
  refine ⟨⟨fun hall s hs hplain => ?_, fun hS f g hplain hstricts h => ?_⟩, fun s =>
    ⟨s.text_filter, s.selects_filter_eq_iff as⟩⟩
  · refine (s.selects_filter_eq_iff as).1 (hall s.filter s.spelledOut ?_ ?_ s.text_filter)
    · intro a ha
      rw [attributes_strict, attributes_spelledOut] at ha
      rw [show a = s.attr by simpa using ha]
      exact hplain
    · intro t ht
      rw [stricts_strict, stricts_spelledOut, List.append_nil, List.mem_singleton] at ht
      rw [ht]
      exact hs
  · have hf : ∀ a ∈ f.attributes, PlainAttribute a := fun a ha => hplain a (List.mem_append_left _ ha)
    have hg : ∀ a ∈ g.attributes, PlainAttribute a := fun a ha => hplain a (List.mem_append_right _ ha)
    have hsettledf : ∀ s ∈ f.stricts, s.settled as = true := fun s hs =>
      hS s (hstricts s (List.mem_append_left _ hs)) (hf _ (attr_mem_attributes f hs))
    have hsettledg : ∀ s ∈ g.stricts, s.settled as = true := fun s hs =>
      hS s (hstricts s (List.mem_append_right _ hs)) (hg _ (attr_mem_attributes g hs))
    calc f.selects as = f.core.selects as := (selects_core as f hsettledf).symm
      _ = g.core.selects as := by rw [core_eq_of_text_eq hf hg h]
      _ = g.selects as := selects_core as g hsettledg

/-- One value past the asserted text. -/
theorem selects_eq_of_text_eq_one_value :
    (Strict.above "uidNumber" "1000").filter.selects ⟨[("uidNumber", .text "2000")]⟩ =
      (Strict.above "uidNumber" "1000").spelledOut.selects ⟨[("uidNumber", .text "2000")]⟩ :=
  ((selects_eq_of_text_eq_iff ⟨[("uidNumber", .text "2000")]⟩ (· = .above "uidNumber" "1000")).1.2
    (fun s hs _ => by rw [hs]; decide +kernel)) _ _ (by decide)
    (by rw [stricts_strict, stricts_spelledOut]; simp) rfl

/-- One value past the asserted text and another that equals it: written alike, the strict order alone holds. -/
theorem not_selects_eq_of_text_eq :
    ¬ ∀ f g : Filter, (∀ a ∈ f.attributes ++ g.attributes, PlainAttribute a) → f.text = g.text →
      ∀ as : Attributes, f.selects as = g.selects as := by
  intro h
  have heq := h (test .above "uidNumber" "1000") (all [test .atLeast "uidNumber" "1000", not (equals "uidNumber" "1000")])
    (by decide) rfl ⟨[("uidNumber", .list [.text "1000", .text "2000"])]⟩
  revert heq
  decide +kernel

end Filter
end DirectoryAccess
