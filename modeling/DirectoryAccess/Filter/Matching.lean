import DirectoryAccess.Filter
/-!
# Which attribute sets a filter selects

A condition holds when it holds of some text that the attribute has.  Texts are compared in lower case.  Order is that
of numbers where both texts are numerals of 64-bit integers, with or without blanks around them, and that of the
lower-case texts otherwise.

A `substring` condition takes the initial piece off the front, finds the middle pieces in order, and wants the final
piece at the end of what is left.
-/
namespace DirectoryAccess

def compareTexts (x y : String) : Ordering :=
  match Text.readInt64Trimmed x, Text.readInt64Trimmed y with
  | some m, some n => compare m n
  | _, _ => compare (Text.lower x) (Text.lower y)

/-- A value `x` stands to the asserted text as the test asks. -/
def Test.accepts (t : Test) (asserted x : String) : Bool :=
  match t with
  | .equals => Text.lower x == Text.lower asserted
  | .contains => Text.occurs (Text.lowerChars asserted.toList) (Text.lowerChars x.toList)
  | .startsWith => (Text.lowerChars asserted.toList).isPrefixOf (Text.lowerChars x.toList)
  | .endsWith => (Text.lowerChars asserted.toList).isSuffixOf (Text.lowerChars x.toList)
  | .above => compareTexts x asserted == .gt
  | .atLeast => compareTexts x asserted != .lt
  | .below => compareTexts x asserted == .lt
  | .atMost => compareTexts x asserted != .gt

namespace Filter

/-- The lower-case pieces stand in `cs` in order, the initial one in front and the final one at the end. -/
def piecesIn (initial : Option (List Char)) (middle : List (List Char)) (final : Option (List Char))
    (cs : List Char) : Bool :=
  match Text.after? (initial.getD []) cs with
  | none => false
  | some rest =>
    match Text.afterEach? middle rest with
    | none => false
    | some rest => (final.getD []).isSuffixOf rest

def substringAccepts (initial : Option String) (middle : List String) (final : Option String) (x : String) : Bool :=
  piecesIn (initial.map (fun s => Text.lowerChars s.toList)) (middle.map (fun s => Text.lowerChars s.toList))
    (final.map (fun s => Text.lowerChars s.toList)) (Text.lowerChars x.toList)

mutual

def selects : Filter → Attributes → Bool
  | .test t attr value, as => (as.textsOf attr).any (t.accepts value)
  | .substring attr initial middle final, as => (as.textsOf attr).any (substringAccepts initial middle final)
  | .present attr, as => !(as.textsOf attr).isEmpty
  | .all fs, as => selectsAll fs as
  | .any fs, as => selectsAny fs as
  | .not f, as => !selects f as

def selectsAll : List Filter → Attributes → Bool
  | [], _ => true
  | f :: fs, as => selects f as && selectsAll fs as

def selectsAny : List Filter → Attributes → Bool
  | [], _ => false
  | f :: fs, as => selects f as || selectsAny fs as

end

theorem selectsAll_eq : ∀ (fs : List Filter) (as : Attributes), selectsAll fs as = fs.all (·.selects as)
  | [], _ => rfl
  | f :: fs, as => by simp [selectsAll, selectsAll_eq fs as]

theorem selectsAny_eq : ∀ (fs : List Filter) (as : Attributes), selectsAny fs as = fs.any (·.selects as)
  | [], _ => rfl
  | f :: fs, as => by simp [selectsAny, selectsAny_eq fs as]

@[simp] theorem selects_all (fs : List Filter) (as : Attributes) :
    (Filter.all fs).selects as = fs.all (·.selects as) := by simp [selects, selectsAll_eq]

@[simp] theorem selects_any (fs : List Filter) (as : Attributes) :
    (Filter.any fs).selects as = fs.any (·.selects as) := by simp [selects, selectsAny_eq]

@[simp] theorem selects_not (f : Filter) (as : Attributes) : f.not.selects as = !f.selects as := by simp [selects]

end Filter
end DirectoryAccess
