import DirectoryAccess.Filter.Matching
import DirectoryAccess.Proofs.Attribute.Reference
import DirectoryAccess.Proofs.Text.Recased
/-!
# Filters blind to the case of ASCII letters

Names and texts that differ in the case of ASCII letters only are one when these are made small.  So a filter and an
attribute set can be made small throughout (`Filter.uncased`, `Attributes.uncased`), and this changes nothing about what
is selected: an attribute is found under its small name, and no condition tells a text from its fold
(`selects_uncased`, by induction on the filter).

Two filters that are one when made small then select alike from attribute sets that are.  A set may list its rows in
another order once its names are spelled differently; as long as they differ by more than case, that does not matter
either (`selects_eq_of_uncased`).
-/
namespace DirectoryAccess

/-! ## Small letters throughout -/

namespace Value

mutual

/-- The value with the ASCII capitals of every text inside it made small. -/
def uncased : Value → Value
  | .null => .null
  | .text s => .text (Text.fold s)
  | .integer n => .integer n
  | .boolean b => .boolean b
  | .binary bs => .binary bs
  | .list vs => .list (uncasedAll vs)

def uncasedAll : List Value → List Value
  | [] => []
  | v :: vs => uncased v :: uncasedAll vs

end

mutual

/-- Up to the case of ASCII letters it has the same texts. -/
theorem map_fold_texts_uncased : ∀ v : Value, v.uncased.texts.map Text.fold = v.texts.map Text.fold
  | .null => rfl
  | .text s => congrArg (fun t => [t]) (Text.fold_fold s)
  | .integer _ => rfl
  | .boolean _ => rfl
  | .binary _ => rfl
  | .list vs => map_fold_textsOfAll_uncasedAll vs

theorem map_fold_textsOfAll_uncasedAll : ∀ vs : List Value,
    (textsOfAll (uncasedAll vs)).map Text.fold = (textsOfAll vs).map Text.fold
  | [] => rfl
  | v :: vs => by
    rw [uncasedAll, textsOfAll, List.map_append, map_fold_texts_uncased v, map_fold_textsOfAll_uncasedAll vs, textsOfAll,
      List.map_append]

end

end Value

namespace Attributes

/-- The rows with names and values in small letters. -/
def uncased (as : Attributes) : Attributes := ⟨as.pairs.map (fun p => (Text.fold p.1, p.2.uncased))⟩

theorem sameName_fold (a b : String) : Text.sameName (Text.fold a) (Text.fold b) = Text.sameName a b := by
  rw [Text.sameName, Text.fold_fold, Text.fold_fold, Text.sameName]

theorem find?_uncased (as : Attributes) (attr : String) :
    as.uncased.find? (Text.fold attr) = (as.find? attr).map Value.uncased := by
  obtain ⟨pairs⟩ := as
  induction pairs with
  | nil => rfl
  | cons p ps ih =>
    have hcons : uncased ⟨p :: ps⟩ = ⟨(Text.fold p.1, p.2.uncased) :: (uncased ⟨ps⟩).pairs⟩ := rfl
    rw [hcons, find?_cons, find?_cons, sameName_fold]
    split
    · rfl
    · exact ih

theorem Distinct.uncased {as : Attributes} (h : as.Distinct) : as.uncased.Distinct := by
  unfold Distinct Attributes.uncased
  rw [List.pairwise_map]
  simp only [sameName_fold]
  exact h

theorem map_fold_textsOf_uncased (as : Attributes) (attr : String) :
    (as.uncased.textsOf (Text.fold attr)).map Text.fold = (as.textsOf attr).map Text.fold := by
  rw [textsOf, find?_uncased, textsOf]
  cases as.find? attr with
  | none => rfl
  | some v => exact v.map_fold_texts_uncased

/-- The order of the rows does not matter where no name stands twice. -/
theorem Distinct.find?_perm {as bs : Attributes} (h : as.Distinct) (hperm : as.pairs.Perm bs.pairs) (attr : String) :
    as.find? attr = bs.find? attr := by
  refine Option.ext (fun v => ?_)
  simp only [h.find?_eq_some_iff, (h.perm hperm).find?_eq_some_iff, hperm.mem_iff]

end Attributes

/-! ## Conditions -/

@[simp] theorem compareTexts_fold_left (x y : String) : compareTexts (Text.fold x) y = compareTexts x y := by
  simp only [compareTexts, Text.readInt64Trimmed_fold, Text.lower_fold]

@[simp] theorem compareTexts_fold_right (x y : String) : compareTexts x (Text.fold y) = compareTexts x y := by
  simp only [compareTexts, Text.readInt64Trimmed_fold, Text.lower_fold]

theorem Test.accepts_fold_asserted (t : Test) (asserted : String) :
    t.accepts (Text.fold asserted) = t.accepts asserted := by
  funext x
  cases t <;> simp [accepts, Text.lower_fold, Text.lowerChars_foldChars]

theorem Test.accepts_fold (t : Test) (asserted x : String) :
    t.accepts asserted (Text.fold x) = t.accepts asserted x := by
  cases t <;> simp [accepts, Text.lower_fold, Text.lowerChars_foldChars]

namespace Filter

theorem substringAccepts_fold_pieces (initial : Option String) (middle : List String) (final : Option String) :
    substringAccepts (initial.map Text.fold) (middle.map Text.fold) (final.map Text.fold) =
      substringAccepts initial middle final := by
  funext x
  simp only [substringAccepts, Option.map_map, List.map_map, Function.comp_def, Text.toList_fold,
    Text.lowerChars_foldChars]

theorem substringAccepts_fold (initial : Option String) (middle : List String) (final : Option String) (x : String) :
    substringAccepts initial middle final (Text.fold x) = substringAccepts initial middle final x := by
  simp only [substringAccepts, Text.toList_fold, Text.lowerChars_foldChars]

/-- A condition that does not tell a text from its fold holds of one of several texts whatever their case. -/
theorem any_congr_fold {p : String → Bool} (hp : ∀ x, p (Text.fold x) = p x) {xs ys : List String}
    (h : xs.map Text.fold = ys.map Text.fold) : xs.any p = ys.any p := by
  have hfold (zs : List String) : (zs.map Text.fold).any p = zs.any p := by
    rw [List.any_map]
    exact congrArg zs.any (funext hp)
  rw [← hfold xs, h, hfold ys]

/-! ## Filters -/

mutual

/-- The filter with the ASCII capitals of its attributes and texts made small. -/
def uncased : Filter → Filter
  | .test t attr value => .test t (Text.fold attr) (Text.fold value)
  | .substring attr initial middle final =>
    .substring (Text.fold attr) (initial.map Text.fold) (middle.map Text.fold) (final.map Text.fold)
  | .present attr => .present (Text.fold attr)
  | .all fs => .all (uncasedAll fs)
  | .any fs => .any (uncasedAll fs)
  | .not f => .not (uncased f)

def uncasedAll : List Filter → List Filter
  | [] => []
  | f :: fs => uncased f :: uncasedAll fs

end

mutual

/-- **Made small throughout, a filter selects as it does.** -/
theorem selects_uncased (as : Attributes) : ∀ f : Filter, f.uncased.selects as.uncased = f.selects as
  | .test t attr value => by
    rw [uncased, selects, t.accepts_fold_asserted, selects]
    exact any_congr_fold (t.accepts_fold value) (as.map_fold_textsOf_uncased attr)
  | .substring attr initial middle final => by
    rw [uncased, selects, substringAccepts_fold_pieces, selects]
    exact any_congr_fold (substringAccepts_fold initial middle final) (as.map_fold_textsOf_uncased attr)
  | .present attr => by
    have hempty := congrArg List.isEmpty (as.map_fold_textsOf_uncased attr)
    rw [List.isEmpty_map, List.isEmpty_map] at hempty
    rw [uncased, selects, hempty, selects]
  | .all fs => selectsAll_uncased as fs
  | .any fs => selectsAny_uncased as fs
  | .not f => congrArg (!·) (selects_uncased as f)

theorem selectsAll_uncased (as : Attributes) : ∀ fs : List Filter,
    selectsAll (uncasedAll fs) as.uncased = selectsAll fs as
  | [] => rfl
  | f :: fs => by rw [uncasedAll, selectsAll, selects_uncased as f, selectsAll_uncased as fs, selectsAll]

theorem selectsAny_uncased (as : Attributes) : ∀ fs : List Filter,
    selectsAny (uncasedAll fs) as.uncased = selectsAny fs as
  | [] => rfl
  | f :: fs => by rw [uncasedAll, selectsAny, selects_uncased as f, selectsAny_uncased as fs, selectsAny]

end

mutual

/-- A filter looks at nothing but what is found under names. -/
theorem selects_congr {as bs : Attributes} (h : ∀ attr, as.find? attr = bs.find? attr) :
    ∀ f : Filter, f.selects as = f.selects bs
  | .test t attr value => by rw [selects, Attributes.textsOf, h, selects, Attributes.textsOf]
  | .substring attr initial middle final => by rw [selects, Attributes.textsOf, h, selects, Attributes.textsOf]
  | .present attr => by rw [selects, Attributes.textsOf, h, selects, Attributes.textsOf]
  | .all fs => selectsAll_congr h fs
  | .any fs => selectsAny_congr h fs
  | .not f => congrArg (!·) (selects_congr h f)

theorem selectsAll_congr {as bs : Attributes} (h : ∀ attr, as.find? attr = bs.find? attr) :
    ∀ fs : List Filter, selectsAll fs as = selectsAll fs bs
  | [] => rfl
  | f :: fs => by rw [selectsAll, selects_congr h f, selectsAll_congr h fs, selectsAll]

theorem selectsAny_congr {as bs : Attributes} (h : ∀ attr, as.find? attr = bs.find? attr) :
    ∀ fs : List Filter, selectsAny fs as = selectsAny fs bs
  | [] => rfl
  | f :: fs => by rw [selectsAny, selects_congr h f, selectsAny_congr h fs, selectsAny]

end

/-- **The case of ASCII letters changes nothing**, in a filter, in the names of a set, or in its texts. -/
theorem selects_eq_of_uncased {f g : Filter} {as bs : Attributes} (hfilter : f.uncased = g.uncased) (has : as.Distinct)
    (hrows : as.uncased.pairs.Perm bs.uncased.pairs) : f.selects as = g.selects bs := by
  have hfind := has.uncased.find?_perm hrows
  calc f.selects as = f.uncased.selects as.uncased := (selects_uncased as f).symm
    _ = g.uncased.selects as.uncased := by rw [hfilter]
    _ = g.uncased.selects bs.uncased := selects_congr hfind g.uncased
    _ = g.selects bs := selects_uncased bs g

/-- A number to reach, a text that is not exceeded, and two pieces. -/
def request : Filter :=
  .all [.test .atLeast "uidNumber" "7", .not (.test .above "cn" "aΣb"), .substring "MAIL" (some "A") ["b"] none]

def loudRequest : Filter :=
  .all [.test .atLeast "UIDNUMBER" "7", .not (.test .above "Cn" "AΣB"), .substring "mail" (some "a") ["B"] none]

/-- A number with blanks, a sigma between letters, and a text in a list. -/
def card : Attributes :=
  ⟨[("UIDnumber", .text " 07 "), ("CN", .text "AσB"), ("mail", .list [.integer 1, .text "a@B"])]⟩

def loudCard : Attributes :=
  ⟨[("MAIL", .list [.integer 1, .text "A@B"]), ("UIDNUMBER", .text " 07 "), ("Cn", .text "AσB")]⟩

theorem selects_loudCard : request.uncased = loudRequest.uncased ∧ card.Distinct ∧
    card.uncased.pairs.Perm loudCard.uncased.pairs ∧ request.selects card = true ∧
    loudRequest.selects loudCard = true := by
  have hnames : Text.fold "uidNumber" = Text.fold "UIDNUMBER" ∧ Text.fold "cn" = Text.fold "Cn" ∧
      Text.fold "MAIL" = Text.fold "mail" := by decide +kernel
  have htexts : Text.fold "aΣb" = Text.fold "AΣB" ∧ Text.fold "A" = Text.fold "a" ∧ Text.fold "b" = Text.fold "B" := by
    decide +kernel
  have hrequest : request.uncased = loudRequest.uncased := by
    obtain ⟨hnumber, hname, hmail⟩ := hnames
    obtain ⟨hsigma, ha, hb⟩ := htexts
    simp only [request, loudRequest, uncased, uncasedAll, Option.map_some, Option.map_none, List.map_cons, List.map_nil,
      hnumber, hname, hmail, hsigma, ha, hb]
  have hdistinct : card.Distinct := by decide +kernel
  have hrows : card.uncased.pairs.Perm loudCard.uncased.pairs := by decide +kernel
  have hselected : request.selects card = true := by decide +kernel
  exact ⟨hrequest, hdistinct, hrows, hselected, (selects_eq_of_uncased hrequest hdistinct hrows).symm.trans hselected⟩

end Filter
end DirectoryAccess
