import DirectoryAccess.Text.Substring
/-!
# Pieces in order

`Trails` says what looking for pieces one after the other is about: the text is made of parts that fit the pieces, in
their order, with any run of characters in front of each.  `Like` says what a pattern is about: each of its marks stands
for any run of characters.

Pieces are looked for where they first occur.  That loses no text, since an earlier occurrence leaves more of it
(`afterFirst?_append`) and a run in front of the next piece may be of any length (`Trails.append_left`).  So looking
from left to right finds the pieces exactly when they trail (`afterEach?_isSuffixOf_iff`).
-/
namespace DirectoryAccess.Text

/-- The text is made of parts that fit the pieces in order, with a run of any length in front of each and nothing after
the last. -/
def Trails (fits : List Char → List Char → Prop) : List (List Char) → List Char → Prop
  | [], cs => cs = []
  | piece :: pieces, cs =>
    ∃ run part rest, cs = run ++ (part ++ rest) ∧ fits part piece ∧ Trails fits pieces rest

/-- The text reads like the pattern, in which `mark` stands for any run of characters: a part that fits what stands
before the first mark, and then the other pieces. -/
def Like (fits : List Char → List Char → Prop) (mark : Char) (pattern cs : List Char) : Prop :=
  match split mark pattern with
  | [] => False
  | piece :: pieces => ∃ part rest, cs = part ++ rest ∧ fits part piece ∧ Trails fits pieces rest

/-! ## Up to a mark -/

/-- Where each of two texts ends at the first member without `p`, whatever they begin tells them apart. -/
theorem append_cons_inj {α : Type} (p : α → Prop) : ∀ (as bs : List α) {x y : α} {xs ys : List α},
    (∀ a ∈ as, p a) → (∀ b ∈ bs, p b) → ¬ p x → ¬ p y → as ++ x :: xs = bs ++ y :: ys →
      as = bs ∧ x = y ∧ xs = ys
  | [], [], _, _, _, _, _, _, _, _, h => ⟨rfl, List.cons.inj h⟩
  | [], b :: bs, x, _, _, _, _, hb, hx, _, h => by
    obtain ⟨rfl, -⟩ := List.cons.inj h
    exact absurd (hb x List.mem_cons_self) hx
  | a :: as, [], _, y, _, _, ha, _, _, hy, h => by
    obtain ⟨rfl, -⟩ := List.cons.inj h
    exact absurd (ha a List.mem_cons_self) hy
  | a :: as, b :: bs, _, _, _, _, ha, hb, hx, hy, h => by
    obtain ⟨rfl, htail⟩ := List.cons.inj h
    obtain ⟨rfl, hrest⟩ := append_cons_inj p as bs (fun c hc => ha c (List.mem_cons_of_mem _ hc))
      (fun c hc => hb c (List.mem_cons_of_mem _ hc)) hx hy htail
    exact ⟨rfl, hrest⟩

/-! ## Looking for one piece -/

theorem afterFirst?_eq_some {piece : List Char} : ∀ {cs rest : List Char},
    afterFirst? piece cs = some rest → ∃ run, cs = run ++ (piece ++ rest)
  | [], rest, h => by
    have hhere : [] = piece ++ rest := after?_eq_some_iff.1 h
    exact ⟨[], hhere⟩
  | c :: cs, rest, h => by
    unfold afterFirst? at h
    split at h
    · rename_i rest' hhere
      obtain rfl : rest' = rest := Option.some.inj h
      have hcs : c :: cs = piece ++ rest' := after?_eq_some_iff.1 hhere
      exact ⟨[], hcs⟩
    · obtain ⟨run, hrun⟩ := afterFirst?_eq_some h
      exact ⟨c :: run, by rw [hrun, List.cons_append]⟩

/-- Wherever the piece occurs, what is left after its first occurrence ends in what is left there. -/
theorem afterFirst?_append (piece : List Char) : ∀ run rest : List Char,
    ∃ more, afterFirst? piece (run ++ (piece ++ rest)) = some (more ++ rest)
  | [], rest => by
    have hhere : after? piece (piece ++ rest) = some rest := after?_eq_some_iff.2 rfl
    refine ⟨[], ?_⟩
    rw [List.nil_append, List.nil_append]
    cases hcs : piece ++ rest with
    | nil => rw [afterFirst?, ← hcs, hhere]
    | cons c cs => rw [afterFirst?, ← hcs, hhere]
  | c :: run, rest => by
    rw [List.cons_append, afterFirst?]
    cases hhere : after? piece (c :: (run ++ (piece ++ rest))) with
    | none => exact afterFirst?_append piece run rest
    | some left =>
      -- The piece stands further in front, so what it leaves is at least as long.
      have hleft : c :: run ++ (piece ++ rest) = piece ++ left := after?_eq_some_iff.1 hhere
      have hrest : rest <:+ piece ++ left := by
        rw [← hleft, ← List.append_assoc]
        exact List.suffix_append _ _
      have hlength := congrArg List.length hleft
      simp only [List.length_append, List.length_cons] at hlength
      have hsuffix : rest <:+ left := List.suffix_of_suffix_length_le hrest (List.suffix_append piece left) (by omega)
      obtain ⟨more, hmore⟩ := hsuffix
      exact ⟨more, by rw [hmore]⟩

theorem occurs_iff {piece cs : List Char} : occurs piece cs = true ↔ ∃ run rest, cs = run ++ (piece ++ rest) := by
  unfold occurs
  constructor
  · intro h
    obtain ⟨rest, hrest⟩ := Option.isSome_iff_exists.1 h
    obtain ⟨run, hrun⟩ := afterFirst?_eq_some hrest
    exact ⟨run, rest, hrun⟩
  · rintro ⟨run, rest, rfl⟩
    obtain ⟨more, hmore⟩ := afterFirst?_append piece run rest
    rw [hmore]
    rfl

/-! ## Looking for pieces in order -/

/-- The run in front of the first piece may be longer. -/
theorem Trails.append_left {fits : List Char → List Char → Prop} (front : List Char) :
    ∀ {pieces : List (List Char)} {cs : List Char}, pieces ≠ [] → Trails fits pieces cs →
      Trails fits pieces (front ++ cs)
  | [], _, hne, _ => absurd rfl hne
  | piece :: pieces, cs, _, h => by
    obtain ⟨run, part, rest, rfl, hpart, hrest⟩ := h
    exact ⟨front ++ run, part, rest, by rw [List.append_assoc], hpart, hrest⟩

theorem trails_map (fits : List Char → List Char → Prop) (f : List Char → List Char) :
    ∀ (pieces : List (List Char)) (cs : List Char),
      Trails fits (pieces.map f) cs ↔ Trails (fun part piece => fits part (f piece)) pieces cs
  | [], cs => Iff.rfl
  | piece :: pieces, cs => by simp only [List.map_cons, Trails, trails_map fits f pieces]

section

variable {fits : List Char → List Char → Prop} (hnil : ∀ part, fits part [] ↔ part = [])
include hnil

/-- An empty piece in front of another asks for nothing. -/
theorem trails_nil_cons {pieces : List (List Char)} (hne : pieces ≠ []) (cs : List Char) :
    Trails fits ([] :: pieces) cs ↔ Trails fits pieces cs := by
  constructor
  · rintro ⟨run, part, rest, rfl, hpart, hrest⟩
    rw [(hnil part).1 hpart, List.nil_append]
    exact hrest.append_left run hne
  · intro h
    exact ⟨[], [], cs, rfl, (hnil []).2 rfl, h⟩

theorem trails_filter (last : List Char) : ∀ (pieces : List (List Char)) (cs : List Char),
    Trails fits (pieces.filter (!·.isEmpty) ++ [last]) cs ↔ Trails fits (pieces ++ [last]) cs
  | [], cs => Iff.rfl
  | [] :: pieces, cs => by
    rw [List.cons_append, trails_nil_cons hnil (by simp)]
    exact trails_filter last pieces cs
  | (c :: piece) :: pieces, cs => by
    rw [List.filter_cons_of_pos (by rfl), List.cons_append, List.cons_append]
    simp only [Trails, trails_filter last pieces]

end

/-- **Looking from left to right finds pieces that trail**: the pieces are found in order, and what is left ends in the
last one, exactly when the text is made of them with runs in front. -/
theorem afterEach?_isSuffixOf_iff (last : List Char) : ∀ (pieces : List (List Char)) (cs : List Char),
    (∃ rest, afterEach? pieces cs = some rest ∧ last <:+ rest) ↔ Trails Eq (pieces ++ [last]) cs
  | [], cs => by
    constructor
    · rintro ⟨rest, hrest, run, rfl⟩
      obtain rfl : cs = run ++ last := Option.some.inj hrest
      exact ⟨run, last, [], by rw [List.append_nil], rfl, rfl⟩
    · rintro ⟨run, part, rest, rfl, rfl, rfl⟩
      exact ⟨_, rfl, run, by rw [List.append_nil]⟩
  | piece :: pieces, cs => by
    have ih := afterEach?_isSuffixOf_iff last pieces
    rw [List.cons_append, Trails, afterEach?]
    constructor
    · rintro ⟨rest, hrest, hlast⟩
      split at hrest
      · rename_i left hleft
        obtain ⟨run, hrun⟩ := afterFirst?_eq_some hleft
        exact ⟨run, piece, left, hrun, rfl, (ih left).1 ⟨rest, hrest, hlast⟩⟩
      · cases hrest
    · rintro ⟨run, part, left, rfl, rfl, htrails⟩
      obtain ⟨more, hmore⟩ := afterFirst?_append part run left
      rw [hmore]
      exact (ih (more ++ left)).2 (htrails.append_left more (by simp))

/-! ## Cutting at the marks -/

theorem intercalate_split (mark : Char) : ∀ cs : List Char, [mark].intercalate (split mark cs) = cs
  | [] => rfl
  | c :: cs => by
    have ih := intercalate_split mark cs
    unfold split
    split
    · rename_i h
      rw [List.intercalate_cons_of_ne_nil (split_ne_nil mark cs), ih, h]
      rfl
    · split
      · rename_i hnil
        exact absurd hnil (split_ne_nil mark cs)
      · rename_i piece pieces heq
        rw [heq] at ih
        rw [← ih]
        cases pieces <;> rfl

/-- A text without marks is the one piece. -/
theorem eq_of_split_eq_singleton {mark : Char} {cs piece : List Char} (h : split mark cs = [piece]) : piece = cs := by
  have hjoin := intercalate_split mark cs
  rw [h, List.intercalate_singleton] at hjoin
  exact hjoin

end DirectoryAccess.Text
