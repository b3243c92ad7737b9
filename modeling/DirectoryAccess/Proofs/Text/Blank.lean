import DirectoryAccess.Text.Blank
import Mathlib.Data.List.DropRight
/-!
# Trimming

What trimming leaves neither starts nor ends with a blank, and a text of which this is true is left as it is
(`trimChars_eq_self_iff`); so trimming again changes nothing.

At the end of a text, blanks go as far back as the last character that is none: `rdropWhile_append_cons` says that what
stands in front of such a character is kept.
-/
namespace DirectoryAccess.Text

theorem trimChars_eq (cs : List Char) : trimChars cs = (cs.dropWhile isBlank).rdropWhile isBlank := rfl

/-! ## The end of a list -/

theorem rdropWhile_append {α : Type} (p : α → Bool) (as bs : List α) :
    (as ++ bs).rdropWhile p = if bs.rdropWhile p = [] then as.rdropWhile p else as ++ bs.rdropWhile p := by
  simp only [List.rdropWhile, List.reverse_append, List.dropWhile_append, List.isEmpty_iff, List.reverse_eq_nil_iff]
  split
  · rfl
  · rw [List.reverse_append, List.reverse_reverse]

theorem rdropWhile_append_cons {α : Type} (p : α → Bool) (as bs : List α) {x : α} (hx : p x = false) :
    (as ++ x :: bs).rdropWhile p = as ++ x :: bs.rdropWhile p := by
  have h : (x :: bs).rdropWhile p = x :: bs.rdropWhile p := by
    rw [← List.singleton_append, rdropWhile_append]
    split
    · rename_i hb
      rw [hb, List.rdropWhile_singleton, if_neg (by simp [hx])]
    · rfl
  rw [rdropWhile_append, h, if_neg (by simp)]

/-! ## Both ends -/

theorem mem_of_mem_trimChars {c : Char} {cs : List Char} (h : c ∈ trimChars cs) : c ∈ cs :=
  (List.dropWhile_suffix _).subset ((List.rdropWhile_prefix _ _).subset h)

theorem dropWhile_eq_self_iff_head? {α : Type} (p : α → Bool) (cs : List α) :
    cs.dropWhile p = cs ↔ ∀ c ∈ cs.head?, p c = false := by
  cases cs <;> simp [List.dropWhile_eq_self_iff]

theorem rdropWhile_eq_self_iff_getLast? {α : Type} (p : α → Bool) (cs : List α) :
    cs.rdropWhile p = cs ↔ ∀ c ∈ cs.getLast?, p c = false := by
  rw [List.rdropWhile, List.reverse_eq_iff, dropWhile_eq_self_iff_head?, List.head?_reverse]

/-- What is left when members that pass a test are taken away at both ends. -/
theorem rdropWhile_dropWhile_eq_iff {α : Type} (p : α → Bool) {l core : List α} :
    (l.dropWhile p).rdropWhile p = core ↔
      ∃ front back, l = front ++ core ++ back ∧ (∀ x ∈ front, p x = true) ∧ (∀ x ∈ back, p x = true) ∧
        (∀ x ∈ core.head?, p x = false) ∧ ∀ x ∈ core.getLast?, p x = false := by
  constructor
  · rintro rfl
    refine ⟨l.takeWhile p, (l.dropWhile p).rtakeWhile p, ?_, ?_, ?_, ?_, ?_⟩
    · rw [List.append_assoc, List.rdropWhile_append_rtakeWhile, List.takeWhile_append_dropWhile]
    · exact fun x hx => List.mem_takeWhile_imp hx
    · exact fun x hx => List.mem_rtakeWhile_imp hx
    · intro x hx
      have hhead : (l.dropWhile p).head? = some x := by
        obtain ⟨t, ht⟩ := List.rdropWhile_prefix p (l.dropWhile p)
        rw [← ht, List.head?_append, hx]
        rfl
      exact (dropWhile_eq_self_iff_head? p _).1 (List.dropWhile_idempotent _ _) x hhead
    · exact (rdropWhile_eq_self_iff_getLast? p _).1 (List.rdropWhile_idempotent _ _)
  · rintro ⟨front, back, rfl, hfront, hback, hhead, hlast⟩
    have hback' : back.rdropWhile p = [] := List.rdropWhile_eq_nil_iff.2 hback
    cases core with
    | nil =>
      have hall : ∀ x ∈ front ++ [] ++ back, p x = true := by
        intro x hx
        rw [List.append_nil] at hx
        exact (List.mem_append.1 hx).elim (hfront x) (hback x)
      rw [List.dropWhile_eq_nil_iff.2 hall]
      rfl
    | cons x xs =>
      have hx : p x = false := hhead x rfl
      rw [List.append_assoc, List.dropWhile_append_of_pos hfront, List.cons_append,
        List.dropWhile_cons_of_neg (by simp [hx]), ← List.cons_append, rdropWhile_append, if_pos hback',
        (rdropWhile_eq_self_iff_getLast? p _).2 hlast]

theorem trimChars_eq_self_iff {cs : List Char} :
    trimChars cs = cs ↔ (∀ c ∈ cs.head?, isBlank c = false) ∧ ∀ c ∈ cs.getLast?, isBlank c = false := by
  rw [← dropWhile_eq_self_iff_head?, ← rdropWhile_eq_self_iff_getLast?, trimChars_eq]
  constructor
  · intro h
    have hd : cs.dropWhile isBlank = cs := by
      apply (List.dropWhile_suffix _).eq_of_length_le
      conv => lhs; rw [← h]
      exact (List.rdropWhile_prefix _ _).length_le
    exact ⟨hd, by rw [hd] at h; exact h⟩
  · rintro ⟨hd, hr⟩
    rw [hd, hr]

theorem trimChars_trimChars (cs : List Char) : trimChars (trimChars cs) = trimChars cs := by
  obtain ⟨-, -, -, -, -, hhead, hlast⟩ := (rdropWhile_dropWhile_eq_iff isBlank).1 (trimChars_eq cs).symm
  exact trimChars_eq_self_iff.2 ⟨hhead, hlast⟩

theorem trimChars_eq_nil_iff {cs : List Char} : trimChars cs = [] ↔ ∀ c ∈ cs, isBlank c = true := by
  rw [trimChars_eq, rdropWhile_dropWhile_eq_iff]
  constructor
  · rintro ⟨front, back, rfl, hfront, hback, -, -⟩ c hc
    rw [List.append_nil] at hc
    exact (List.mem_append.1 hc).elim (hfront c) (hback c)
  · exact fun h => ⟨cs, [], by simp, h, by simp, by simp, by simp⟩

end DirectoryAccess.Text
