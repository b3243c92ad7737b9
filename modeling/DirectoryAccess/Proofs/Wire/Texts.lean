import DirectoryAccess.Proofs.Predicate.Expressible
import DirectoryAccess.Proofs.Predicate.Meaning
import DirectoryAccess.Proofs.Text.Broken
import DirectoryAccess.Proofs.Wire.Changes
/-!
# Texts and rows of a value

A value is made flat twice, by two recursions through its lists: as the texts that filters and predicates see, and as
the rows of octets that are sent.  Leaves differ.  A leaf that is written out is turned into its octets for sending; a
leaf of octets is sent as it is and read as text for filters, whatever is broken in it.

The texts are the rows read in this way, one for one and in order (`Value.texts_eq_map_octetRows`, by induction on the
value).  So a value has a text exactly if it has a row, and whoever asks for a value asks the same question: a filter for
presence, a comparison that wants one text, and the changes that delete what is to have no rows.
-/
namespace DirectoryAccess

/-! ## The two views -/

namespace Value

mutual

/-- **The texts of a value are its rows, read as text.** -/
theorem texts_eq_map_octetRows : ∀ v : Value, v.texts = v.octetRows.map Text.decodeLossy
  | .null => rfl
  | .text s => by rw [texts, octetRows, List.map_singleton, Text.decodeLossy_octets]
  | .integer n => by rw [texts, octetRows, List.map_singleton, Text.decodeLossy_octets]
  | .boolean b => by rw [texts, octetRows, List.map_singleton, Text.decodeLossy_octets]
  | .binary _ => rfl
  | .list vs => textsOfAll_eq_map vs

theorem textsOfAll_eq_map : ∀ vs : List Value, textsOfAll vs = (octetRowsOfAll vs).map Text.decodeLossy
  | [] => rfl
  | v :: vs => by
    rw [textsOfAll, octetRowsOfAll, List.map_append, texts_eq_map_octetRows v, textsOfAll_eq_map vs]

end

theorem texts_eq_nil_iff (v : Value) : v.texts = [] ↔ v.octetRows = [] := by
  rw [texts_eq_map_octetRows, List.map_eq_nil_iff]

end Value

/-! ## Values without a row -/

namespace Attributes

theorem textsOf_of_find? {as : Attributes} {name : String} {v : Value} (h : as.find? name = some v) :
    as.textsOf name = v.texts := by
  rw [textsOf, h]

theorem wireOf_eq_nil_iff_of_find? {as : Attributes} {name : String} {v : Value} (h : as.find? name = some v) :
    as.wireOf name = [] ↔ v.octetRows = [] := by
  rw [wireOf, h]
  exact rowSet_eq_nil_iff

theorem changeOf?_eq_delete_iff {current desired : Attributes} {name attr : String} :
    current.changeOf? desired name = some (.delete attr) ↔
      name = attr ∧ current.has attr = true ∧ desired.wireOf attr = [] := by
  constructor
  · intro h
    rcases current.changeOf?_cases desired name with ⟨hnone, -, -⟩ | ⟨c, hsome, hattr, hrows, hhas⟩
    · rw [hnone] at h
      cases h
    · rw [hsome] at h
      obtain rfl := Option.some.inj h
      obtain rfl : attr = name := hattr
      exact ⟨rfl, hhas rfl, hrows.symm⟩
  · rintro ⟨rfl, hhas, hrows⟩
    rw [changeOf?, hrows]
    exact if_pos hhas

/-- An attribute is deleted if it is named, is there, and is to have no rows. -/
theorem delete_mem_changesTo_iff {current desired : Attributes} {attr : String} :
    .delete attr ∈ current.changesTo desired ↔
      attr ∈ desired.names ∧ current.has attr = true ∧ desired.wireOf attr = [] := by
  simp only [changesTo_eq, List.mem_filterMap, changeOf?_eq_delete_iff, desired.sortedNames_perm.mem_iff]
  constructor
  · rintro ⟨name, hname, rfl, hdelete⟩
    exact ⟨hname, hdelete⟩
  · rintro ⟨hname, hdelete⟩
    exact ⟨attr, hname, rfl, hdelete⟩

end Attributes

/-- A value is refused as what a comparison asserts with the number of its rows, unless that is one. -/
theorem Predicate.operand_eq_error_iff {property : String} {v : Value} {n : Nat} :
    operand property v = .error (.operandCount property n) ↔ v.octetRows.length = n ∧ n ≠ 1 := by
  have hlength : v.texts.length = v.octetRows.length := by rw [v.texts_eq_map_octetRows, List.length_map]
  rw [← faultOf_eq_some_iff, faultOf_operand, operandFlaw?, hlength]
  by_cases hone : v.octetRows.length = 1
  · rw [if_pos hone]
    refine iff_of_false (Option.some_ne_none _).symm ?_
    rintro ⟨rfl, hne⟩
    exact hne hone
  · rw [if_neg hone, Option.some.injEq, ArgumentFault.operandCount.injEq]
    constructor
    · rintro ⟨-, rfl⟩
      exact ⟨rfl, hone⟩
    · rintro ⟨rfl, -⟩
      exact ⟨rfl, rfl⟩

/-- **The texts of a value are the rows it is sent as, read as text**, one for one and in order.  So a value without rows,
and no other, is missed by a filter for presence, is refused by a comparison as holding nothing, and is sent as a deletion
where the attribute is there. -/
theorem texts_agree_with_wire (v : Value) :
    v.texts = v.octetRows.map Text.decodeLossy ∧ (v.texts = [] ↔ v.octetRows = []) ∧
      (∀ (as : Attributes) (attr : String), as.find? attr = some v →
        ((Filter.present attr).selects as = false ↔ v.octetRows = [])) ∧
      (∀ property : String, Predicate.operand property v = .error (.operandCount property 0) ↔ v.octetRows = []) ∧
      ∀ (current desired : Attributes) (attr : String), desired.find? attr = some v →
        (.delete attr ∈ current.changesTo desired ↔
          attr ∈ desired.names ∧ current.has attr = true ∧ v.texts = []) := by
  refine ⟨v.texts_eq_map_octetRows, v.texts_eq_nil_iff, fun as attr hv => ?_, fun property => ?_,
    fun current desired attr hv => ?_⟩
  · rw [← Bool.not_eq_true, Predicate.selects_present_iff, not_not, Attributes.textsOf_of_find? hv, v.texts_eq_nil_iff]
  · rw [Predicate.operand_eq_error_iff, List.length_eq_zero_iff]
    exact and_iff_left zero_ne_one
  · rw [Attributes.delete_mem_changesTo_iff, Attributes.wireOf_eq_nil_iff_of_find? hv, v.texts_eq_nil_iff]

/-- Lists without a value in them. -/
def hollow : Value := .list [.null, .list [.list []]]

/-- A text, octets that are none, a number and a truth value, at several depths. -/
def scattered : Value := .list [.text "é", .list [.binary [0xFF, 0x41], .null], .integer (-7), .list [.boolean true]]

/-- What is in lists is found in order; a note of hollow lists is not present, and takes away the note that is there. -/
theorem texts_agree_with_wire_notes :
    scattered.texts = ([[0xC3, 0xA9], [0xFF, 0x41], [0x2D, 0x37], [0x54, 0x52, 0x55, 0x45]] : List Octets).map
        Text.decodeLossy ∧
      Attributes.find? ⟨[("note", hollow)]⟩ "note" = some hollow ∧
      (Filter.present "note").selects ⟨[("note", hollow)]⟩ = false ∧
      .delete "note" ∈ Attributes.changesTo ⟨[("Note", scattered)]⟩ ⟨[("note", hollow)]⟩ := by
  have hnote : Attributes.find? ⟨[("note", hollow)]⟩ "note" = some hollow := rfl
  obtain ⟨-, hempty, hpresent, -, hdelete⟩ := texts_agree_with_wire hollow
  refine ⟨(texts_agree_with_wire scattered).1.trans (congrArg _ ?_), hnote, (hpresent _ _ hnote).2 rfl,
    (hdelete ⟨[("Note", scattered)]⟩ _ _ hnote).2 ⟨?_, ?_, hempty.2 rfl⟩⟩
  · decide +kernel
  · decide
  · decide

end DirectoryAccess
