import DirectoryAccess.Mapping
import DirectoryAccess.Proofs.Store.Writing
/-!
# What an entity is written as

The entry of an entity holds its values and the classes, and no null (`find?_entryOf`).  What is written onto an entry
that is there already is the same, followed by nulls for attributes of the mapping that have no value
(`pairs_changesOf`).

`find?_writeAttributes_changesOf` says what comes of that, whatever was there: the classes are those of the schema, an
attribute that the entity has a value for has that value, any other attribute of the mapping is gone, and all the rest is
as it was.  A new entry is the case in which nothing was there (`writeAttributes_empty_changesOf`).
-/
namespace DirectoryAccess

variable {ε : Type}

namespace Schema

/-- Some stored property of the entities keeps its value in the attribute. -/
def maps (s : Schema ε) (attr : String) : Bool :=
  s.properties.any (fun p => p.isStored && Text.sameName p.attr attr)

end Schema

namespace Mapping

open Schema (valueOf?)

/-! ## The whole entry -/

theorem distinct_entryOf (m : Mapping ε) (e : ε) (n : Name) : (m.entryOf e n).attributes.Distinct :=
  (Attributes.distinct_ofPairs _).set _ _

theorem entryOf_attributes (m : Mapping ε) {e : ε} (h : (m.schema.attributes e).Distinct) (n : Name) :
    (m.entryOf e n).attributes =
      Attributes.set ⟨(m.schema.attributes e).pairs.filter (fun p => !p.2.isNull)⟩ classAttribute m.classesValue := by
  have hvalues : Attributes.Distinct ⟨(m.schema.attributes e).pairs.filter (fun p => !p.2.isNull)⟩ :=
    List.Pairwise.filter _ h
  rw [entryOf, Attributes.ofPairs_pairs hvalues]

theorem find?_entryOf (m : Mapping ε) {e : ε} (h : (m.schema.attributes e).Distinct) (n : Name) (attr : String) :
    (m.entryOf e n).attributes.find? attr =
      if Text.sameName classAttribute attr then some m.classesValue else valueOf? (m.schema.attributes e) attr := by
  rw [entryOf_attributes m h, Attributes.find?_set, h.find?_filter (fun v => !v.isNull)]
  rfl

theorem orNull_eq (as : Attributes) (p : Property) :
    orNull as p = as ∨ (orNull as p).pairs = as.pairs ++ [(p.attr, .null)] := by
  unfold orNull
  cases hhas : as.has p.attr with
  | true => exact .inl (if_neg (by simp))
  | false =>
    split
    · exact .inr (Attributes.pairs_set_of_not_has hhas .null)
    · exact .inl rfl

theorem has_orNull (as : Attributes) (p : Property) (attr : String) :
    (orNull as p).has attr = (as.has attr || (p.isStored && Text.sameName p.attr attr)) := by
  unfold orNull
  cases hstored : p.isStored with
  | false => simp
  | true =>
    cases hhas : as.has p.attr with
    | false => simp [Attributes.has_set, Bool.or_comm]
    | true =>
      cases hsame : Text.sameName p.attr attr with
      | false => simp
      | true =>
        rw [Attributes.has_congr as hsame] at hhas
        simp [hhas]

/-- Nulls are put behind the values, one for each attribute of the properties that has none. -/
theorem foldl_orNull (ps : List Property) (as : Attributes) (h : as.Distinct) :
    (ps.foldl orNull as).Distinct ∧
      (∃ nulls, (ps.foldl orNull as).pairs = as.pairs ++ nulls ∧ ∀ p ∈ nulls, p.2 = .null) ∧
      ∀ attr, (ps.foldl orNull as).has attr =
        (as.has attr || ps.any (fun p => p.isStored && Text.sameName p.attr attr)) := by
  induction ps generalizing as with
  | nil => exact ⟨h, ⟨[], by simp, by simp⟩, by simp⟩
  | cons p ps ih =>
    have hstep : (orNull as p).Distinct := by
      unfold orNull
      split
      · exact h.set _ _
      · exact h
    obtain ⟨hdistinct, ⟨nulls, hpairs, hnulls⟩, hhas⟩ := ih _ hstep
    refine ⟨hdistinct, ?_, fun attr => ?_⟩
    · rcases orNull_eq as p with heq | heq
      · rw [heq] at hpairs
        rw [List.foldl_cons, heq]
        exact ⟨nulls, hpairs, hnulls⟩
      · rw [heq, List.append_assoc] at hpairs
        refine ⟨(p.attr, .null) :: nulls, hpairs, ?_⟩
        intro q hq
        rcases List.mem_cons.1 hq with rfl | hq
        · rfl
        · exact hnulls q hq
    · rw [List.foldl_cons, hhas, has_orNull, List.any_cons, Bool.or_assoc]

section

variable (m : Mapping ε) (e : ε) (n : Name)

theorem distinct_changesOf : (m.changesOf e n).attributes.Distinct :=
  (foldl_orNull m.schema.properties _ (m.distinct_entryOf e n)).1

theorem pairs_changesOf :
    ∃ nulls, (m.changesOf e n).attributes.pairs = (m.entryOf e n).attributes.pairs ++ nulls ∧
      ∀ p ∈ nulls, p.2 = .null :=
  (foldl_orNull m.schema.properties _ (m.distinct_entryOf e n)).2.1

theorem has_changesOf (attr : String) :
    (m.changesOf e n).attributes.has attr = ((m.entryOf e n).attributes.has attr || m.schema.maps attr) :=
  (foldl_orNull m.schema.properties _ (m.distinct_entryOf e n)).2.2 attr

/-- The nulls are no values. -/
theorem valueOf?_changesOf (attr : String) :
    valueOf? (m.changesOf e n).attributes attr = valueOf? (m.entryOf e n).attributes attr := by
  obtain ⟨nulls, hpairs, hnulls⟩ := m.pairs_changesOf e n
  unfold valueOf? Attributes.find?
  rw [hpairs, List.find?_append]
  cases (m.entryOf e n).attributes.pairs.find? (fun p => Text.sameName p.1 attr) with
  | some p => rfl
  | none =>
    rw [Option.none_or]
    cases hfind : nulls.find? (fun p => Text.sameName p.1 attr) with
    | none => rfl
    | some p =>
      have hnull : p.2 = .null := hnulls p (List.mem_of_find?_eq_some hfind)
      simp [hnull, Option.filter, Value.isNull]

end

/-! ## Written onto an entry -/

/-- **What an entity leaves of an entry onto which it is written.** -/
theorem find?_writeAttributes_changesOf (m : Mapping ε) {e : ε} (h : (m.schema.attributes e).Distinct) (n : Name)
    (old : Attributes) (attr : String) :
    (Store.writeAttributes old (m.changesOf e n).attributes).find? attr =
      if Text.sameName classAttribute attr then some m.classesValue
      else (valueOf? (m.schema.attributes e) attr).or (if m.schema.maps attr then none else old.find? attr) := by
  have hentry := m.find?_entryOf h n attr
  rw [Store.find?_writeAttributes old (m.distinct_changesOf e n), m.has_changesOf, m.valueOf?_changesOf,
    ← Attributes.find?_isSome]
  cases hclass : Text.sameName classAttribute attr with
  | true =>
    rw [hclass, if_pos rfl] at hentry
    rw [valueOf?, hentry]
    rfl
  | false =>
    rw [hclass, if_neg (by simp)] at hentry
    rw [valueOf?, hentry]
    cases hvalue : valueOf? (m.schema.attributes e) attr with
    | none => simp
    | some v =>
      have hnull : v.isNull = false := by
        rw [valueOf?, Option.filter_eq_some_iff] at hvalue
        simpa using hvalue.2
      simp [Option.filter, hnull]

end Mapping
end DirectoryAccess
