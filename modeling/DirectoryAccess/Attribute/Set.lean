import DirectoryAccess.Attribute.Value
/-!
# Attribute sets

The attributes of an entry are a finite map from names to values in which the case of a name's ASCII letters does not
matter.  The spelling is kept: a name is stored as it was last written.

Every set is built from the empty one by `set`, `erase` and `keep`, so no two names in it are equal up to case; lookups
take the first pair whose name is.  The order of the pairs is that of the last writes and no answer depends on it.
-/
namespace DirectoryAccess

structure Attributes where
  pairs : List (String × Value)
deriving DecidableEq

namespace Attributes

def empty : Attributes := ⟨[]⟩

def find? (as : Attributes) (name : String) : Option Value :=
  (as.pairs.find? (fun p => Text.sameName p.1 name)).map Prod.snd

def has (as : Attributes) (name : String) : Bool := as.pairs.any (fun p => Text.sameName p.1 name)

def erase (as : Attributes) (name : String) : Attributes :=
  ⟨as.pairs.filter (fun p => !Text.sameName p.1 name)⟩

/-- Writes the value under this spelling of the name. -/
def set (as : Attributes) (name : String) (v : Value) : Attributes := ⟨(as.erase name).pairs ++ [(name, v)]⟩

/-- The set that writing the pairs one after another gives. -/
def ofPairs (pairs : List (String × Value)) : Attributes := pairs.foldl (fun as p => as.set p.1 p.2) empty

/-- Keeps the named attributes only; without a name, or with the name `*` among them, keeps all. -/
def keep (as : Attributes) (names : List String) : Attributes :=
  if names.isEmpty || names.contains "*" then as
  else ⟨as.pairs.filter (fun p => names.any (fun n => Text.sameName n p.1))⟩

def names (as : Attributes) : List String := as.pairs.map Prod.fst

def size (as : Attributes) : Nat := as.pairs.length

def isEmpty (as : Attributes) : Bool := as.pairs.isEmpty

/-- The same values under the same spellings, in whatever order. -/
def same (as bs : Attributes) : Bool :=
  as.size == bs.size && as.pairs.all (fun p => bs.pairs.contains p)

/-- The attribute, if it is one text. -/
def text? (as : Attributes) (name : String) : Option String := (as.find? name).bind Value.text?

/-- The texts of the attribute, if there is one. -/
def plainTexts? (as : Attributes) (name : String) : Option (List String) := (as.find? name).map Value.plainTexts

/-- The texts that a filter sees under the name: none without the attribute. -/
def textsOf (as : Attributes) (name : String) : List String :=
  match as.find? name with
  | some v => v.texts
  | none => []

/-! ## One law per operation -/

theorem find?_isSome (as : Attributes) (name : String) : (as.find? name).isSome = as.has name := by
  simp [find?, has, Option.isSome_map, List.isSome_find?]

@[simp] theorem find?_empty (name : String) : empty.find? name = none := rfl

theorem find?_erase (as : Attributes) (name other : String) :
    (as.erase name).find? other = if Text.sameName name other then none else as.find? other := by
  unfold find? erase
  split
  · rename_i h
    rw [List.find?_eq_none.2]; · rfl
    intro p hp hs
    have hp := (List.mem_filter.1 hp).2
    simp [Text.sameName_trans hs (Text.sameName_symm h)] at hp
  · rename_i h
    congr 1
    induction as.pairs with
    | nil => rfl
    | cons p ps ih =>
      by_cases ho : Text.sameName p.1 other = true
      · have hn : Text.sameName p.1 name = false := by
          rw [Bool.eq_false_iff]; exact fun hn => h (Text.sameName_trans (Text.sameName_symm hn) ho)
        simp [hn, ho]
      · by_cases hn : Text.sameName p.1 name = true <;> simp [hn, ho, ih]

theorem find?_set (as : Attributes) (name other : String) (v : Value) :
    (as.set name v).find? other = if Text.sameName name other then some v else as.find? other := by
  have he := find?_erase as name other
  unfold find? set at *
  rw [List.find?_append]
  split at he
  · rename_i h
    rw [Option.map_eq_none_iff] at he
    simp [he, h]
  · rename_i h
    simp only [List.find?_cons, h, List.find?_nil, Option.or_none]
    exact he

end Attributes
end DirectoryAccess
