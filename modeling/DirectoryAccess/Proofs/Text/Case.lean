import DirectoryAccess.Proofs.Text.Pieces
import DirectoryAccess.Text.Case
/-!
# Parts of a text in lower case

A text can be compared ignoring case as a whole or part by part.  As a whole, it is put in lower case and parts of the
result are compared (`IsLowerOf`).  Part by part, it is cut first and then each part is compared as texts are
(`AlikeIgnoringCase`).

The two are not the same, since the lower-case form of a text is not that of its parts: a capital sigma looks at what
stands around it, and a capital I with a dot above becomes two characters.  Without these two letters the form is made
letter by letter (`lowerChars_eq_map`), so it has no cuts but those of the text (`exists_append_of_lowerChars`).
-/
namespace DirectoryAccess.Text

/-- The part of a lower-case text is the lower-case form of the piece. -/
def IsLowerOf (part piece : List Char) : Prop := part = lowerChars piece

/-- The part and the piece are equal up to case. -/
def AlikeIgnoringCase (part piece : List Char) : Prop := lowerChars part = lowerChars piece

/-- Every letter has a lower-case form of its own, one letter long. -/
def LetterByLetter (cs : List Char) : Prop := 'Σ' ∉ cs ∧ 'İ' ∉ cs

instance (cs : List Char) : Decidable (LetterByLetter cs) :=
  inferInstanceAs (Decidable ('Σ' ∉ cs ∧ 'İ' ∉ cs))

theorem LetterByLetter.of_append {as bs : List Char} (h : LetterByLetter (as ++ bs)) :
    LetterByLetter as ∧ LetterByLetter bs := by
  obtain ⟨hsigma, hdotted⟩ := h
  rw [List.mem_append, not_or] at hsigma hdotted
  exact ⟨⟨hsigma.1, hdotted.1⟩, hsigma.2, hdotted.2⟩

theorem lowerFrom_eq_map : ∀ (cs : List Char) (inWord : Bool), LetterByLetter cs →
    lowerFrom inWord cs = cs.map lowerChar
  | [], _, _ => rfl
  | c :: cs, inWord, ⟨hsigma, hdotted⟩ => by
    rw [List.mem_cons, not_or] at hsigma hdotted
    rw [lowerFrom, if_neg (Ne.symm hsigma.1), if_neg (Ne.symm hdotted.1),
      lowerFrom_eq_map cs _ ⟨hsigma.2, hdotted.2⟩]
    rfl

theorem lowerChars_eq_map {cs : List Char} (h : LetterByLetter cs) : lowerChars cs = cs.map lowerChar :=
  lowerFrom_eq_map cs false h

theorem lowerChars_append {as bs : List Char} (h : LetterByLetter (as ++ bs)) :
    lowerChars (as ++ bs) = lowerChars as ++ lowerChars bs := by
  obtain ⟨has, hbs⟩ := h.of_append
  rw [lowerChars_eq_map h, lowerChars_eq_map has, lowerChars_eq_map hbs, List.map_append]

/-- Where the lower-case form is cut, the text can be cut. -/
theorem exists_append_of_lowerChars {cs as bs : List Char} (h : LetterByLetter cs) (hcut : lowerChars cs = as ++ bs) :
    ∃ front back, cs = front ++ back ∧ as = lowerChars front ∧ bs = lowerChars back := by
  rw [lowerChars_eq_map h, List.map_eq_append_iff] at hcut
  obtain ⟨front, back, rfl, rfl, rfl⟩ := hcut
  obtain ⟨hfront, hback⟩ := h.of_append
  exact ⟨front, back, rfl, (lowerChars_eq_map hfront).symm, (lowerChars_eq_map hback).symm⟩

/-! ## As a whole and part by part -/

theorem starts_lowerChars_iff {piece cs : List Char} (h : LetterByLetter cs) (P Q : List Char → Prop)
    (hPQ : ∀ rest, LetterByLetter rest → (P (lowerChars rest) ↔ Q rest)) :
    (∃ part rest, lowerChars cs = part ++ rest ∧ IsLowerOf part piece ∧ P rest) ↔
      ∃ part rest, cs = part ++ rest ∧ AlikeIgnoringCase part piece ∧ Q rest := by
  constructor
  · rintro ⟨part, rest, hcut, hpart, hrest⟩
    obtain ⟨front, back, rfl, rfl, rfl⟩ := exists_append_of_lowerChars h hcut
    exact ⟨front, back, rfl, hpart, (hPQ back h.of_append.2).1 hrest⟩
  · rintro ⟨front, back, rfl, hpart, hrest⟩
    exact ⟨lowerChars front, lowerChars back, lowerChars_append h, hpart, (hPQ back h.of_append.2).2 hrest⟩

theorem follows_lowerChars_iff {piece cs : List Char} (h : LetterByLetter cs) (P Q : List Char → Prop)
    (hPQ : ∀ rest, LetterByLetter rest → (P (lowerChars rest) ↔ Q rest)) :
    (∃ run part rest, lowerChars cs = run ++ (part ++ rest) ∧ IsLowerOf part piece ∧ P rest) ↔
      ∃ run part rest, cs = run ++ (part ++ rest) ∧ AlikeIgnoringCase part piece ∧ Q rest := by
  constructor
  · rintro ⟨run, part, rest, hcut, hpart, hrest⟩
    obtain ⟨front, back, rfl, -, hback⟩ := exists_append_of_lowerChars h hcut
    obtain ⟨part', rest', hcut', hpart', hrest'⟩ :=
      (starts_lowerChars_iff h.of_append.2 P Q hPQ).1 ⟨part, rest, hback.symm, hpart, hrest⟩
    exact ⟨front, part', rest', by rw [hcut'], hpart', hrest'⟩
  · rintro ⟨run, part, rest, rfl, hpart, hrest⟩
    have hback := h.of_append.2
    refine ⟨lowerChars run, lowerChars part, lowerChars rest, ?_, hpart, (hPQ rest hback.of_append.2).2 hrest⟩
    rw [lowerChars_append h, lowerChars_append hback]

theorem lowerChars_eq_nil_iff {cs : List Char} (h : LetterByLetter cs) : lowerChars cs = [] ↔ cs = [] := by
  rw [lowerChars_eq_map h]
  exact List.map_eq_nil_iff

/-- A text without the two letters has pieces in order part by part exactly when it has them as a whole. -/
theorem trails_lowerChars_iff : ∀ (pieces : List (List Char)) (cs : List Char), LetterByLetter cs →
    (Trails IsLowerOf pieces (lowerChars cs) ↔ Trails AlikeIgnoringCase pieces cs)
  | [], _, h => lowerChars_eq_nil_iff h
  | _ :: pieces, _, h => follows_lowerChars_iff h _ _ (trails_lowerChars_iff pieces)

theorem like_lowerChars_iff {mark : Char} {pattern cs : List Char} (h : LetterByLetter cs) :
    Like IsLowerOf mark pattern (lowerChars cs) ↔ Like AlikeIgnoringCase mark pattern cs := by
  unfold Like
  cases split mark pattern with
  | nil => exact Iff.rfl
  | cons piece pieces => exact starts_lowerChars_iff h _ _ (trails_lowerChars_iff pieces)

end DirectoryAccess.Text
