import DirectoryAccess.Proofs.Filter.Pieces
/-!
# Substring conditions as texts with gaps

What a substring condition accepts can be written down: its pieces in lower case, one after another, and a gap of any
length in front of each but the initial one (`woven`).  Nothing is said there about a search, so this is what looking for
each piece where it first occurs comes to (`substring_exact`).

For a pattern the gaps stand where its marks are.  The pieces between marks are all that there are, empty ones as well,
whether marks stand side by side or at either end.
-/
namespace DirectoryAccess
namespace Text

/-- The pieces one after another, with a gap in front of each. -/
def woven (gaps pieces : List (List Char)) : List Char := (List.zipWith (· ++ ·) gaps pieces).flatten

theorem woven_cons (gap piece : List Char) (gaps pieces : List (List Char)) :
    woven (gap :: gaps) (piece :: pieces) = gap ++ (piece ++ woven gaps pieces) := by
  rw [woven, List.zipWith_cons_cons, List.flatten_cons, List.append_assoc, woven]

theorem trails_iff_woven : ∀ (pieces : List (List Char)) (cs : List Char),
    Trails Eq pieces cs ↔ ∃ gaps : List (List Char), gaps.length = pieces.length ∧ cs = woven gaps pieces
  | [], cs => by
    constructor
    · rintro rfl
      exact ⟨[], rfl, rfl⟩
    · rintro ⟨gaps, hlength, rfl⟩
      obtain rfl : gaps = [] := List.length_eq_zero_iff.1 hlength
      rfl
  | piece :: pieces, cs => by
    constructor
    · rintro ⟨run, part, rest, rfl, rfl, htrails⟩
      obtain ⟨gaps, hlength, rfl⟩ := (trails_iff_woven pieces rest).1 htrails
      exact ⟨run :: gaps, congrArg (· + 1) hlength, (woven_cons run part gaps pieces).symm⟩
    · rintro ⟨gaps, hlength, rfl⟩
      cases gaps with
      | nil => cases hlength
      | cons gap gaps =>
        have htrails := (trails_iff_woven pieces _).2 ⟨gaps, Nat.succ.inj hlength, rfl⟩
        exact ⟨gap, piece, woven gaps pieces, woven_cons gap piece gaps pieces, rfl, htrails⟩

/-! ## Marks -/

theorem not_mem_of_mem_split {mark : Char} : ∀ {cs piece : List Char}, piece ∈ split mark cs → mark ∉ piece
  | [], piece, h => by
    obtain rfl : piece = [] := List.mem_singleton.1 h
    exact List.not_mem_nil
  | c :: cs, piece, h => by
    unfold split at h
    split at h
    · rcases List.mem_cons.1 h with rfl | h
      · exact List.not_mem_nil
      · exact not_mem_of_mem_split h
    · rename_i hc
      split at h
      · rename_i hnil
        exact absurd hnil (split_ne_nil mark cs)
      · rename_i first rest hsplit
        have hrest {p : List Char} (hp : p ∈ first :: rest) : mark ∉ p := not_mem_of_mem_split (hsplit ▸ hp)
        rcases List.mem_cons.1 h with rfl | h
        · rw [List.mem_cons, not_or]
          exact ⟨Ne.symm hc, hrest List.mem_cons_self⟩
        · exact hrest (List.mem_cons_of_mem _ h)

theorem split_of_not_mem {mark : Char} : ∀ {cs : List Char}, mark ∉ cs → split mark cs = [cs]
  | [], _ => rfl
  | c :: cs, h => by
    rw [List.mem_cons, not_or] at h
    rw [split, if_neg (Ne.symm h.1), split_of_not_mem h.2]

end Text

namespace Filter

/-- A piece of a condition in lower case; one that is left out is empty. -/
def lowerPiece (piece : Option String) : List Char := (piece.map (fun s => Text.lowerChars s.toList)).getD []

theorem substringAccepts_iff_woven (initial : Option String) (middle : List String) (final : Option String)
    (x : String) : substringAccepts initial middle final x = true ↔
      ∃ gaps : List (List Char), gaps.length = middle.length + 1 ∧
        Text.lowerChars x.toList =
          lowerPiece initial ++
            Text.woven gaps (middle.map (fun s => Text.lowerChars s.toList) ++ [lowerPiece final]) := by
  rw [substringAccepts, piecesIn_iff]
  simp only [Text.trails_iff_woven, List.length_append, List.length_map, List.length_singleton]
  constructor
  · rintro ⟨rest, hx, gaps, hlength, rfl⟩
    exact ⟨gaps, hlength, hx⟩
  · rintro ⟨gaps, hlength, hx⟩
    exact ⟨_, hx, gaps, hlength, rfl⟩

theorem like_iff_woven (mark : Char) (pattern cs : List Char) : Text.Like Text.IsLowerOf mark pattern cs ↔
    ∃ first rest gaps, Text.split mark pattern = first :: rest ∧ gaps.length = rest.length ∧
      cs = Text.lowerChars first ++ Text.woven gaps (rest.map Text.lowerChars) := by
  have htrails (pieces : List (List Char)) (cs : List Char) : Text.Trails Text.IsLowerOf pieces cs ↔
      ∃ gaps : List (List Char), gaps.length = pieces.length ∧ cs = Text.woven gaps (pieces.map Text.lowerChars) := by
    have hmap := Text.trails_iff_woven (pieces.map Text.lowerChars) cs
    rw [Text.trails_map, List.length_map] at hmap
    exact hmap
  unfold Text.Like
  cases Text.split mark pattern with
  | nil => simp
  | cons piece pieces =>
    simp only [htrails]
    constructor
    · rintro ⟨part, rest, rfl, rfl, gaps, hlength, rfl⟩
      exact ⟨piece, pieces, gaps, rfl, hlength, rfl⟩
    · rintro ⟨first, rest, gaps, hsplit, hlength, rfl⟩
      obtain ⟨rfl, rfl⟩ := List.cons.inj hsplit
      exact ⟨_, _, rfl, rfl, gaps, hlength, rfl⟩

/-- **Looking for the pieces from left to right misses nothing.**

A substring condition selects by the texts whose lower-case form is the initial piece and then each middle piece and the
final one, with any gap in front of each of these.  A pattern selects by those whose lower-case form is its pieces
between marks, with any gap for each mark; without a mark, by those that are equal to it up to case. -/
theorem substring_exact (attr : String) (as : Attributes) :
    (∀ (initial : Option String) (middle : List String) (final : Option String),
      (Filter.substring attr initial middle final).selects as = true ↔
        ∃ x ∈ as.textsOf attr, ∃ gaps : List (List Char), gaps.length = middle.length + 1 ∧
          Text.lowerChars x.toList =
            lowerPiece initial ++
              Text.woven gaps (middle.map (fun s => Text.lowerChars s.toList) ++ [lowerPiece final])) ∧
    ∀ (text : String) (mark : Char),
      [mark].intercalate (Text.split mark text.toList) = text.toList ∧
      (∀ piece ∈ Text.split mark text.toList, mark ∉ piece) ∧
      ((pattern attr text mark).selects as = true ↔
        ∃ x ∈ as.textsOf attr, ∃ first rest gaps,
          Text.split mark text.toList = first :: rest ∧ gaps.length = rest.length ∧
            Text.lowerChars x.toList = Text.lowerChars first ++ Text.woven gaps (rest.map Text.lowerChars)) ∧
      (mark ∉ text.toList →
        ((pattern attr text mark).selects as = true ↔ ∃ x ∈ as.textsOf attr, Text.lower x = Text.lower text)) := by
  refine ⟨fun initial middle final => ?_, fun text mark => ?_⟩
  · rw [selects, List.any_eq_true]
    simp only [substringAccepts_iff_woven]
  · refine ⟨Text.intercalate_split mark _, fun _ hpiece => Text.not_mem_of_mem_split hpiece, ?_, fun hmark => ?_⟩
    · rw [selects_pattern_iff]
      simp only [like_iff_woven]
    · have hequals : pattern attr text mark = equals attr text := by
        simp only [pattern, Text.split_of_not_mem hmark, List.getLast?_nil]
      rw [hequals]
      simp [equals, selects, Test.accepts]

/-- Marks side by side and at the end, a piece that occurs twice, and gaps with nothing in them.  Without marks the case
of letters does not matter. -/
theorem substring_exact_star :
    '*' ∉ "ÄB".toList ∧ (pattern "cn" "ÄB" '*').selects ⟨[("CN", .text "äb")]⟩ = true ∧
      (pattern "cn" "x**AB*" '*').selects ⟨[("CN", .list [.text "y", .text "XabAb"])]⟩ = true ∧
      (Filter.substring "cn" none ["AB", "a"] (some "B")).selects ⟨[("CN", .text "abAb")]⟩ = true := by
  have hplain : '*' ∉ "ÄB".toList := by decide +kernel
  obtain ⟨-, hplainly⟩ := substring_exact "cn" ⟨[("CN", .text "äb")]⟩
  obtain ⟨-, hmarked⟩ := substring_exact "cn" ⟨[("CN", .list [.text "y", .text "XabAb"])]⟩
  obtain ⟨hpieces, -⟩ := substring_exact "cn" ⟨[("CN", .text "abAb")]⟩
  refine ⟨hplain, ((hplainly "ÄB" '*').2.2.2 hplain).2 ⟨"äb", ?_, ?_⟩,
    (hmarked "x**AB*" '*').2.2.1.2 ⟨"XabAb", ?_, ['x'], [[], ['A', 'B'], []], [[], [], ['a', 'b']], ?_, rfl, ?_⟩,
    (hpieces none ["AB", "a"] (some "B")).2 ⟨"abAb", ?_, [[], [], []], rfl, ?_⟩⟩ <;> decide +kernel

end Filter
end DirectoryAccess
