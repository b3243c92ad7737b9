import DirectoryAccess.Filter.Written
/-!
# What a written filter says

The written form of a filter knows three relations and asterisks.  `Core` is that form as a tree: conditions of an
attribute, a relation and the pieces between the asterisks, and their combination.  `Filter.core` gives the tree of a
filter.  Several filters share one: a piece that is not asked for is an empty piece, presence is two empty pieces, and a
strict order is the order and no equality.

A filter is written as its tree is (`Filter.chars_core`).  The tree of a filter whose attributes are plain is sound:
every condition names a plain attribute and has at least one piece (`Filter.sound_core`).
-/
namespace DirectoryAccess

/-- The relations of written conditions. -/
inductive Sign where
  | equal
  | atLeast
  | atMost
deriving DecidableEq

def Sign.chars : Sign → List Char
  | .equal => ['=']
  | .atLeast => ['>', '=']
  | .atMost => ['<', '=']

/-- The characters that mean something in a written filter where an attribute stands. -/
def filterMarks : List Char := ['(', ')', '*', '\\', '=', '<', '>', '&', '|', '!', '~', ':']

/-- The name of an attribute that is read as it is written. -/
def PlainAttribute (attr : String) : Prop := attr ≠ "" ∧ ∀ c ∈ attr.toList, c ∉ filterMarks

instance (attr : String) : Decidable (PlainAttribute attr) :=
  decidable_of_iff (attr ≠ "" ∧ attr.toList.all (· ∉ filterMarks) = true) (by simp [PlainAttribute])

/-- What a written filter says. -/
inductive Core where
  | item (attr : String) (sign : Sign) (pieces : List String)
  | all (cs : List Core)
  | any (cs : List Core)
  | not (c : Core)

namespace Core

/-- The pieces of a condition with asterisks between them. -/
def bodyChars (pieces : List String) : List Char := ['*'].intercalate (pieces.map (fun s => escapeFilterChars s.toList))

mutual

def chars : Core → List Char
  | .item attr sign pieces => Filter.relation attr sign.chars (bodyChars pieces)
  | .all cs => Filter.wrap ('&' :: charsOfAll cs)
  | .any cs => Filter.wrap ('|' :: charsOfAll cs)
  | .not c => Filter.wrap ('!' :: chars c)

def charsOfAll : List Core → List Char
  | [] => []
  | c :: cs => chars c ++ charsOfAll cs

end

mutual

/-- Every condition names a plain attribute and has a piece. -/
def Sound : Core → Prop
  | .item attr _ pieces => PlainAttribute attr ∧ pieces ≠ []
  | .all cs => SoundAll cs
  | .any cs => SoundAll cs
  | .not c => Sound c

def SoundAll : List Core → Prop
  | [] => True
  | c :: cs => Sound c ∧ SoundAll cs

end

/-- Where a strict order stands: the order that is not strict, without equality. -/
def strictly (attr : String) (sign : Sign) (value : String) : Core :=
  .all [.item attr sign [value], .not (.item attr .equal [value])]

theorem bodyChars_singleton (s : String) : bodyChars [s] = escapeFilterChars s.toList := by
  simp [bodyChars]

theorem bodyChars_cons (s : String) {pieces : List String} (h : pieces ≠ []) :
    bodyChars (s :: pieces) = escapeFilterChars s.toList ++ '*' :: bodyChars pieces := by
  cases pieces with
  | nil => exact absurd rfl h
  | cons t ts => simp [bodyChars, List.intercalate_cons_cons]

theorem chars_strictly (attr : String) (sign : Sign) (value : String) :
    (strictly attr sign value).chars =
      Filter.wrap ('&' :: (Filter.relation attr sign.chars (escapeFilterChars value.toList)
        ++ Filter.wrap ('!' :: Filter.relation attr ['='] (escapeFilterChars value.toList)))) := by
  simp [strictly, chars, charsOfAll, bodyChars_singleton, Sign.chars]

end Core

namespace Filter

/-- The tree of a comparison. -/
def coreOfTest (t : Test) (attr value : String) : Core :=
  match t with
  | .equals => .item attr .equal [value]
  | .contains => .item attr .equal ["", value, ""]
  | .startsWith => .item attr .equal [value, ""]
  | .endsWith => .item attr .equal ["", value]
  | .atLeast => .item attr .atLeast [value]
  | .atMost => .item attr .atMost [value]
  | .above => .strictly attr .atLeast value
  | .below => .strictly attr .atMost value

mutual

/-- The tree that a filter is written as. -/
def core : Filter → Core
  | .test t attr value => coreOfTest t attr value
  | .substring attr initial middle final =>
    .item attr .equal (initial.getD "" :: (middle ++ [final.getD ""]))
  | .present attr => .item attr .equal ["", ""]
  | .all fs => .all (coreOfAll fs)
  | .any fs => .any (coreOfAll fs)
  | .not f => .not (core f)

def coreOfAll : List Filter → List Core
  | [] => []
  | f :: fs => core f :: coreOfAll fs

end

mutual

/-- The attributes that a filter speaks of. -/
def attributes : Filter → List String
  | .test _ attr _ => [attr]
  | .substring attr _ _ _ => [attr]
  | .present attr => [attr]
  | .all fs => attributesOfAll fs
  | .any fs => attributesOfAll fs
  | .not f => attributes f

def attributesOfAll : List Filter → List String
  | [] => []
  | f :: fs => attributes f ++ attributesOfAll fs

end

/-! ## The tree is what is written -/

theorem chars_coreOfTest (t : Test) (attr value : String) :
    (coreOfTest t attr value).chars = testChars t attr (escapeFilterChars value.toList) := by
  cases t <;> simp [coreOfTest, Core.chars, testChars, Core.bodyChars_singleton, Core.bodyChars_cons,
    Core.chars_strictly, Sign.chars, escapeFilterChars]

theorem bodyChars_append_singleton (last : String) : ∀ middle : List String,
    Core.bodyChars (middle ++ [last]) = middleChars middle ++ escapeFilterChars last.toList
  | [] => by simp [Core.bodyChars_singleton, middleChars]
  | s :: middle => by
    rw [List.cons_append, Core.bodyChars_cons _ (by simp), bodyChars_append_singleton last middle]
    simp [middleChars]

theorem escapeFilterChars_getD (piece : Option String) :
    escapeFilterChars (piece.getD "").toList = optionalChars piece := by
  cases piece <;> rfl

mutual

theorem chars_core : ∀ f : Filter, f.core.chars = f.chars
  | .test t attr value => chars_coreOfTest t attr value
  | .substring attr initial middle final => by
    rw [core, Core.chars, Core.bodyChars_cons _ (by simp), bodyChars_append_singleton, escapeFilterChars_getD,
      escapeFilterChars_getD]
    rfl
  | .present attr => by
    rw [core, Core.chars, Core.bodyChars_cons _ (by simp), Core.bodyChars_singleton]
    rfl
  | .all fs => by rw [core, Core.chars, chars, charsOfAll_core fs]
  | .any fs => by rw [core, Core.chars, chars, charsOfAll_core fs]
  | .not f => by rw [core, Core.chars, chars, chars_core f]

theorem charsOfAll_core : ∀ fs : List Filter, Core.charsOfAll (coreOfAll fs) = charsOfAll fs
  | [] => rfl
  | f :: fs => by rw [coreOfAll, Core.charsOfAll, charsOfAll, chars_core f, charsOfAll_core fs]

end

mutual

theorem sound_core : ∀ f : Filter, (∀ a ∈ f.attributes, PlainAttribute a) → f.core.Sound
  | .test t attr value, h => by
    have hattr : PlainAttribute attr := h attr (by simp [attributes])
    cases t <;> simp [core, coreOfTest, Core.strictly, Core.Sound, Core.SoundAll, hattr]
  | .substring attr initial middle final, h => by
    simp [core, Core.Sound, h attr (by simp [attributes])]
  | .present attr, h => by simp [core, Core.Sound, h attr (by simp [attributes])]
  | .all fs, h => soundAll_coreOfAll fs (by simpa [attributes] using h)
  | .any fs, h => soundAll_coreOfAll fs (by simpa [attributes] using h)
  | .not f, h => sound_core f (by simpa [attributes] using h)

theorem soundAll_coreOfAll : ∀ fs : List Filter, (∀ a ∈ attributesOfAll fs, PlainAttribute a) →
    Core.SoundAll (coreOfAll fs)
  | [], _ => trivial
  | f :: fs, h => by
    simp only [attributesOfAll, List.mem_append] at h
    exact ⟨sound_core f (fun a ha => h a (.inl ha)), soundAll_coreOfAll fs (fun a ha => h a (.inr ha))⟩

end

end Filter
end DirectoryAccess
