/-!
# Pieces inside a text

`after?` takes a piece off the front of a text, `afterFirst?` drops everything up to the end of its first occurrence,
and `split` cuts a text at every occurrence of a character.  Looking for pieces one after the other, each in what the
one before it leaves, finds them all whenever they stand in that order anywhere: an earlier occurrence leaves more.
-/
namespace DirectoryAccess.Text

/-- What follows `piece` at the front of the text. -/
def after? (piece cs : List Char) : Option (List Char) :=
  if piece.isPrefixOf cs then some (cs.drop piece.length) else none

theorem after?_eq_some_iff {piece cs rest : List Char} : after? piece cs = some rest ↔ cs = piece ++ rest := by
  unfold after?
  constructor
  · intro h
    split at h
    · rename_i hp
      obtain ⟨t, rfl⟩ := List.isPrefixOf_iff_prefix.1 hp
      simpa using h
    · cases h
  · rintro rfl
    simp

/-- What follows the first occurrence of `piece`. -/
def afterFirst? (piece : List Char) : List Char → Option (List Char)
  | [] => after? piece []
  | c :: cs =>
    match after? piece (c :: cs) with
    | some rest => some rest
    | none => afterFirst? piece cs

def occurs (piece cs : List Char) : Bool := (afterFirst? piece cs).isSome

/-- What is left after finding the pieces in order. -/
def afterEach? : List (List Char) → List Char → Option (List Char)
  | [], cs => some cs
  | piece :: pieces, cs =>
    match afterFirst? piece cs with
    | some rest => afterEach? pieces rest
    | none => none

/-- The pieces between the occurrences of `mark`; there is one more of them than of these. -/
def split (mark : Char) : List Char → List (List Char)
  | [] => [[]]
  | c :: cs =>
    if c = mark then [] :: split mark cs
    else
      match split mark cs with
      | [] => [[c]]
      | piece :: pieces => (c :: piece) :: pieces

theorem split_ne_nil (mark : Char) : ∀ cs : List Char, split mark cs ≠ []
  | [] => by simp [split]
  | c :: cs => by
    unfold split
    split
    · simp
    · split <;> simp

end DirectoryAccess.Text
