import DirectoryAccess.Filter.Matching
import DirectoryAccess.Proofs.Text.Case
import DirectoryAccess.Proofs.Text.Pieces
import Mathlib.Data.List.Basic
/-!
# Substring conditions

A substring condition accepts a text exactly when the lower-case form of the text starts with the initial piece and the
middle pieces and the final one trail after it (`piecesIn_iff`).  A pattern becomes such a condition, or an equality
where it has no mark, and either accepts exactly the texts whose lower-case form reads like the pattern
(`selects_pattern_iff`): the empty pieces that are left out of the condition ask for nothing.
-/
namespace DirectoryAccess
namespace Filter

theorem piecesIn_iff (initial : Option (List Char)) (middle : List (List Char)) (final : Option (List Char))
    (cs : List Char) :
    piecesIn initial middle final cs = true ↔
      ∃ rest, cs = initial.getD [] ++ rest ∧ Text.Trails Eq (middle ++ [final.getD []]) rest := by
  have hfound : piecesIn initial middle final cs = true ↔
      ∃ rest, Text.after? (initial.getD []) cs = some rest ∧
        ∃ left, Text.afterEach? middle rest = some left ∧ final.getD [] <:+ left := by
    unfold piecesIn
    cases Text.after? (initial.getD []) cs with
    | none => simp
    | some rest =>
      cases hleft : Text.afterEach? middle rest with
      | none => simp [hleft]
      | some left => simp [hleft]
  rw [hfound]
  constructor
  · rintro ⟨rest, hafter, hleft⟩
    exact ⟨rest, Text.after?_eq_some_iff.1 hafter, (Text.afterEach?_isSuffixOf_iff _ _ _).1 hleft⟩
  · rintro ⟨rest, hcs, htrails⟩
    exact ⟨rest, Text.after?_eq_some_iff.2 hcs, (Text.afterEach?_isSuffixOf_iff _ _ _).2 htrails⟩

/-- A piece of a condition in lower case; a piece that is left out is an empty one. -/
theorem lowerChars_piece? (cs : List Char) :
    ((piece? cs).map (fun s => Text.lowerChars s.toList)).getD [] = Text.lowerChars cs := by
  unfold piece?
  cases cs with
  | nil => rfl
  | cons c cs => simp

theorem lowerChars_filterMap_piece? : ∀ pieces : List (List Char),
    (pieces.filterMap piece?).map (fun s => Text.lowerChars s.toList) =
      (pieces.filter (!·.isEmpty)).map Text.lowerChars
  | [] => rfl
  | [] :: pieces => lowerChars_filterMap_piece? pieces
  | (c :: piece) :: pieces => by
    have hpiece : piece? (c :: piece) = some (String.ofList (c :: piece)) := rfl
    rw [List.filterMap_cons_some hpiece, List.filter_cons_of_pos (by rfl), List.map_cons, List.map_cons,
      lowerChars_filterMap_piece? pieces, String.toList_ofList]

/-- The pieces between two marks of a pattern, in lower case and without the empty ones, trail as all of them do. -/
theorem trails_lowerChars (middle : List (List Char)) (last rest : List Char) :
    Text.Trails Eq ((middle.filter (!·.isEmpty)).map Text.lowerChars ++ [Text.lowerChars last]) rest ↔
      Text.Trails Text.IsLowerOf (middle ++ [last]) rest := by
  have hmap : (middle.filter (!·.isEmpty)).map Text.lowerChars ++ [Text.lowerChars last] =
      (middle.filter (!·.isEmpty) ++ [last]).map Text.lowerChars := by simp
  have hnil (part : List Char) : Text.IsLowerOf part [] ↔ part = [] := Iff.rfl
  rw [hmap, Text.trails_map]
  exact Text.trails_filter hnil last middle rest

/-- What the condition accepts that a pattern with a mark becomes. -/
theorem substringAccepts_pieces (first : List Char) (middle : List (List Char)) (last : List Char) (x : String) :
    substringAccepts (piece? first) (middle.filterMap piece?) (piece? last) x = true ↔
      ∃ part rest, Text.lowerChars x.toList = part ++ rest ∧ Text.IsLowerOf part first ∧
        Text.Trails Text.IsLowerOf (middle ++ [last]) rest := by
  rw [substringAccepts, piecesIn_iff, lowerChars_piece?, lowerChars_piece?, lowerChars_filterMap_piece?]
  constructor
  · rintro ⟨rest, hx, htrails⟩
    exact ⟨_, rest, hx, rfl, (trails_lowerChars middle last rest).1 htrails⟩
  · rintro ⟨part, rest, hx, hpart, htrails⟩
    rw [hpart] at hx
    exact ⟨rest, hx, (trails_lowerChars middle last rest).2 htrails⟩

/-- **A pattern selects by the texts that read like it**: those whose lower-case form is made of the lower-case forms of
its pieces, with any run for each mark. -/
theorem selects_pattern_iff (attr text : String) (mark : Char) (as : Attributes) :
    (pattern attr text mark).selects as = true ↔
      ∃ x ∈ as.textsOf attr, Text.Like Text.IsLowerOf mark text.toList (Text.lowerChars x.toList) := by
  unfold Text.Like
  cases hsplit : Text.split mark text.toList with
  | nil => exact absurd hsplit (Text.split_ne_nil mark _)
  | cons first rest =>
    cases hlast : rest.getLast? with
    | none =>
      obtain rfl : rest = [] := List.getLast?_eq_none_iff.1 hlast
      obtain rfl : first = text.toList := Text.eq_of_split_eq_singleton hsplit
      have hpattern : pattern attr text mark = equals attr text := by simp only [pattern, hsplit, hlast]
      rw [hpattern]
      simp [equals, selects, Test.accepts, Text.Trails, Text.IsLowerOf, Text.lower, String.ofList_inj]
    | some last =>
      have hrest : rest.dropLast ++ [last] = rest := List.dropLast_append_getLast? last hlast
      have hpattern : pattern attr text mark =
          .substring attr (piece? first) (rest.dropLast.filterMap piece?) (piece? last) := by
        simp only [pattern, hsplit, hlast]
      rw [hpattern, selects, List.any_eq_true]
      simp only [substringAccepts_pieces, hrest]

end Filter
end DirectoryAccess
