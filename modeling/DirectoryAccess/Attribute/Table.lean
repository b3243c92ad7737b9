import DirectoryAccess.Attribute.Set
/-!
# Attribute sets as hash tables

An attribute set is kept in a hash table.  To the table two spellings of a name are two keys, and it lists its rows in an
order of its own, which any change may shuffle.  So a name is looked for in two steps: as it is spelled, and if there is
no such row under the first key listed that differs from it by case only.

The pairs of a set are the rows here, in the order in which the table lists them.  A change finds the key first and then
touches the table by that key alone.
-/
namespace DirectoryAccess
namespace Attributes

/-! ## Rows by key -/

def rowAt? (as : Attributes) (key : String) : Option Value := (as.pairs.find? (fun p => p.1 == key)).map Prod.snd

def withoutRow (as : Attributes) (key : String) : Attributes := ⟨as.pairs.filter (fun p => p.1 != key)⟩

/-- The row at the key has the value, whether there was one or not. -/
def withRow (as : Attributes) (key : String) (v : Value) : Attributes := ⟨(as.withoutRow key).pairs ++ [(key, v)]⟩

/-! ## Names in two steps -/

/-- The key under which the name is found. -/
def spelling? (as : Attributes) (name : String) : Option String :=
  if as.names.contains name then some name else as.names.find? (fun key => Text.sameName key name)

def lookup? (as : Attributes) (name : String) : Option Value := (as.spelling? name).bind as.rowAt?

/-- The value under the name, and the table without it. -/
def take (as : Attributes) (name : String) : Option Value × Attributes :=
  match as.spelling? name with
  | some key => (as.rowAt? key, as.withoutRow key)
  | none => (none, as)

/-- What stood under another spelling goes, and the value comes under this one. -/
def write (as : Attributes) (name : String) (v : Value) : Attributes :=
  match as.spelling? name with
  | some key => (as.withoutRow key).withRow name v
  | none => as.withRow name v

end Attributes
end DirectoryAccess
