import DirectoryAccess.Proofs.Store.Writing
import DirectoryAccess.Wire.Entries
/-!
# Writing over the wire

A directory in memory and one behind a server are written differently.  In memory the values themselves are merged, and
a null removes an attribute whatever else is there.  A server is sent rows, a replacement for each attribute that has
some and a deletion for each other that is there, with lists that are empty at any depth as good as nulls.

`wire_agrees_with_store` says that no difference is left in the rows.  The invariant of the changes (`rowsUnder_foldl`)
is that a name from which nothing is to be sent, because it has no rows and is not there, has no rows on the server
either; the changes made so far settle the names that they are about, in whatever spelling.
-/
namespace DirectoryAccess

/-! ## Entries on a server -/

/-- The rows of the first attribute of that name. -/
def rowsUnder (entry : List (String × List Octets)) (name : String) : List Octets :=
  ((entry.find? (fun p => Text.sameName p.1 name)).map Prod.snd).getD []

/-- What is left without an attribute. -/
def withoutRows (entry : List (String × List Octets)) (attr : String) : List (String × List Octets) :=
  entry.filter (fun p => !Text.sameName p.1 attr)

theorem rowsUnder_cons (p : String × List Octets) (ps : List (String × List Octets)) (name : String) :
    rowsUnder (p :: ps) name = if Text.sameName p.1 name then p.2 else rowsUnder ps name := by
  unfold rowsUnder
  rw [List.find?_cons]
  cases Text.sameName p.1 name <;> rfl

theorem rowsUnder_withoutRows (entry : List (String × List Octets)) (attr name : String) :
    rowsUnder (withoutRows entry attr) name = if Text.sameName attr name then [] else rowsUnder entry name := by
  induction entry with
  | nil => simp [withoutRows, rowsUnder]
  | cons p ps ih =>
    rw [rowsUnder_cons]
    cases hattr : Text.sameName p.1 attr with
    | true =>
      have hdrop : withoutRows (p :: ps) attr = withoutRows ps attr := List.filter_cons_of_neg (by simp [hattr])
      rw [hdrop, ih, Attributes.sameName_congr_left hattr name]
      cases Text.sameName attr name <;> rfl
    | false =>
      have hkeep : withoutRows (p :: ps) attr = p :: withoutRows ps attr := List.filter_cons_of_pos (by simp [hattr])
      rw [hkeep, rowsUnder_cons, ih]
      cases hp : Text.sameName p.1 name with
      | false => rfl
      | true =>
        have hname : Text.sameName attr name = false := by
          rw [Attributes.sameName_comm, ← Attributes.sameName_congr_left hp attr]
          exact hattr
        rw [hname]
        rfl

namespace Change

/-- The rows that the attribute is to have. -/
def rows : Change → List Octets
  | .replace _ rows => rows
  | .delete _ => []

/-- What a server makes of an entry that it is told to change. -/
def applyTo (entry : List (String × List Octets)) : Change → List (String × List Octets)
  | .replace attr rows => (attr, rows) :: withoutRows entry attr
  | .delete attr => withoutRows entry attr

theorem rowsUnder_applyTo (entry : List (String × List Octets)) (c : Change) (name : String) :
    rowsUnder (c.applyTo entry) name = if Text.sameName c.attr name then c.rows else rowsUnder entry name := by
  cases c with
  | replace attr rows =>
    rw [applyTo, rowsUnder_cons, rowsUnder_withoutRows]
    show _ = if Text.sameName attr name then rows else _
    cases Text.sameName attr name <;> rfl
  | delete attr => exact rowsUnder_withoutRows entry attr name

end Change

namespace Attributes

/-- The attributes as a server has them. -/
def rows (as : Attributes) : List (String × List Octets) := as.pairs.map (fun p => (p.1, p.2.wire))

theorem rowsUnder_rows (as : Attributes) (name : String) : rowsUnder as.rows name = as.wireOf name := by
  unfold rowsUnder rows wireOf find?
  rw [List.find?_map]
  show ((Option.map _ (as.pairs.find? (fun p => Text.sameName p.1 name))).map Prod.snd).getD [] = _
  cases as.pairs.find? (fun p => Text.sameName p.1 name) <;> rfl

theorem wireOf_congr (as : Attributes) {a b : String} (h : Text.sameName a b = true) : as.wireOf a = as.wireOf b := by
  unfold wireOf
  rw [as.find?_congr h]

theorem wireOf_of_not_has {as : Attributes} {name : String} (h : as.has name = false) : as.wireOf name = [] := by
  unfold wireOf
  rw [(as.find?_eq_none_iff name).2 h]

theorem sortedNames_perm (as : Attributes) : as.sortedNames.Perm as.names := List.mergeSort_perm _ _

theorem any_sortedNames (as : Attributes) (name : String) :
    as.sortedNames.any (fun n => Text.sameName n name) = as.has name := by
  rw [as.sortedNames_perm.any_eq, names, List.any_map]
  rfl

/-! ## The changes that are sent -/

/-- What is sent about a name. -/
def changeOf? (current desired : Attributes) (name : String) : Option Change :=
  match desired.wireOf name with
  | [] => if current.has name then some (.delete name) else none
  | rows => some (.replace name rows)

theorem changesTo_eq (current desired : Attributes) :
    current.changesTo desired = desired.sortedNames.filterMap (current.changeOf? desired) := rfl

theorem changeOf?_cases (current desired : Attributes) (name : String) :
    (current.changeOf? desired name = none ∧ desired.wireOf name = [] ∧ current.has name = false) ∨
      ∃ c, current.changeOf? desired name = some c ∧ c.attr = name ∧ c.rows = desired.wireOf name ∧
        (c = .delete name → current.has name = true) := by
  unfold changeOf?
  cases hrows : desired.wireOf name with
  | nil =>
    cases hhas : current.has name with
    | false => exact .inl ⟨rfl, rfl, rfl⟩
    | true => exact .inr ⟨.delete name, rfl, rfl, rfl, fun _ => rfl⟩
  | cons row rows => exact .inr ⟨.replace name (row :: rows), rfl, rfl, rfl, fun h => by cases h⟩

/-- A name that is not there and gets nothing has no rows on the server. -/
def Settled (current desired : Attributes) (entry : List (String × List Octets)) : Prop :=
  ∀ name, current.has name = false → desired.wireOf name = [] → rowsUnder entry name = []

theorem settled_rows (current desired : Attributes) : current.Settled desired current.rows := by
  intro name hhas _
  rw [rowsUnder_rows, wireOf_of_not_has hhas]

theorem Settled.applyTo {current desired : Attributes} {entry : List (String × List Octets)}
    (h : current.Settled desired entry) {c : Change} (hc : c.rows = desired.wireOf c.attr) :
    current.Settled desired (c.applyTo entry) := by
  intro name hhas hrows
  rw [Change.rowsUnder_applyTo, hc]
  split
  · rename_i hsame
    rw [desired.wireOf_congr hsame, hrows]
  · exact h name hhas hrows

/-- The changes about some names settle these, and no others. -/
theorem rowsUnder_foldl (current desired : Attributes) (name : String) (names : List String)
    (entry : List (String × List Octets)) (h : current.Settled desired entry) :
    rowsUnder ((names.filterMap (current.changeOf? desired)).foldl Change.applyTo entry) name =
      if names.any (fun n => Text.sameName n name) then desired.wireOf name else rowsUnder entry name := by
  induction names generalizing entry with
  | nil => rfl
  | cons n ns ih =>
    rw [List.any_cons]
    rcases current.changeOf?_cases desired n with ⟨hnone, hrows, hhas⟩ | ⟨c, hsome, rfl, hrows, -⟩
    · rw [List.filterMap_cons_none hnone, ih entry h]
      cases hsame : Text.sameName n name with
      | false => rfl
      | true =>
        -- Nothing is sent, and nothing is what is there.
        rw [desired.wireOf_congr hsame] at hrows
        rw [current.has_congr hsame] at hhas
        rw [hrows, h name hhas hrows]
        simp
    · rw [List.filterMap_cons_some hsome, List.foldl_cons, ih _ (h.applyTo hrows), Change.rowsUnder_applyTo, hrows]
      cases hsame : Text.sameName c.attr name with
      | false => rfl
      | true =>
        rw [desired.wireOf_congr hsame]
        simp

theorem rowsUnder_changesTo (current desired : Attributes) (name : String) :
    rowsUnder ((current.changesTo desired).foldl Change.applyTo current.rows) name =
      if desired.has name then desired.wireOf name else current.wireOf name := by
  rw [changesTo_eq, rowsUnder_foldl _ _ _ _ _ (current.settled_rows desired), any_sortedNames, rowsUnder_rows]

/-- In memory the same comes of it. -/
theorem wireOf_writeAttributes (current : Attributes) {desired : Attributes} (h : desired.Distinct) (name : String) :
    (Store.writeAttributes current desired).wireOf name =
      if desired.has name then desired.wireOf name else current.wireOf name := by
  unfold wireOf
  rw [Store.find?_writeAttributes current h]
  cases desired.has name with
  | false => rfl
  | true =>
    unfold Schema.valueOf?
    cases desired.find? name with
    | none => rfl
    | some v => cases v <;> rfl

theorem attr_of_changeOf? {current desired : Attributes} {name : String} {c : Change}
    (h : current.changeOf? desired name = some c) : c.attr = name ∧ (c = .delete name → current.has name = true) := by
  rcases current.changeOf?_cases desired name with ⟨hnone, -, -⟩ | ⟨d, hsome, hattr, -, hhas⟩
  · rw [hnone] at h
    cases h
  · rw [hsome] at h
    obtain rfl := Option.some.inj h
    exact ⟨hattr, hhas⟩

/-- Every change is about a name that is to be written, and a deletion about one that is there too. -/
theorem attr_of_mem_changesTo {current desired : Attributes} {c : Change} (h : c ∈ current.changesTo desired) :
    c.attr ∈ desired.names ∧ (c = .delete c.attr → current.has c.attr = true) := by
  rw [changesTo_eq] at h
  obtain ⟨name, hname, hc⟩ := List.mem_filterMap.1 h
  obtain ⟨rfl, hhas⟩ := attr_of_changeOf? hc
  exact ⟨desired.sortedNames_perm.mem_iff.1 hname, hhas⟩

/-- No attribute is changed twice. -/
theorem pairwise_changesTo (current : Attributes) {desired : Attributes} (h : desired.Distinct) :
    (current.changesTo desired).Pairwise (fun c d => Text.sameName c.attr d.attr = false) := by
  have hsorted : desired.sortedNames.Pairwise (fun a b => Text.sameName a b = false) :=
    (pairwise_not_sameName_perm desired.sortedNames_perm).2 (distinct_iff_names.1 h)
  rw [changesTo_eq]
  refine List.Pairwise.filterMap _ (fun a b hab c hc d hd => ?_) hsorted
  rw [(attr_of_changeOf? hc).1, (attr_of_changeOf? hd).1]
  exact hab

/-! ## What is sent to add an entry -/

/-- What is sent of an attribute. -/
def additionOf? (as : Attributes) (name : String) : Option (String × List Octets) :=
  match as.wireOf name with
  | [] => none
  | rows => some (name, rows)

theorem additions_eq (as : Attributes) : as.additions = as.sortedNames.filterMap as.additionOf? := rfl

theorem rowsUnder_filterMap_additionOf? (as : Attributes) (name : String) (names : List String) :
    rowsUnder (names.filterMap as.additionOf?) name =
      if names.any (fun n => Text.sameName n name) then as.wireOf name else [] := by
  induction names with
  | nil => rfl
  | cons n ns ih =>
    rw [List.any_cons]
    cases hrows : as.wireOf n with
    | nil =>
      have hnone : as.additionOf? n = none := by rw [additionOf?, hrows]
      rw [List.filterMap_cons_none hnone, ih]
      cases hsame : Text.sameName n name with
      | false => rfl
      | true =>
        rw [as.wireOf_congr hsame] at hrows
        rw [hrows]
        simp
    | cons row rows =>
      have hsome : as.additionOf? n = some (n, as.wireOf n) := by rw [additionOf?, hrows]
      rw [List.filterMap_cons_some hsome, rowsUnder_cons, ih]
      cases hsame : Text.sameName n name with
      | false => rfl
      | true => exact as.wireOf_congr hsame

theorem rowsUnder_additions (as : Attributes) (name : String) : rowsUnder as.additions name = as.wireOf name := by
  rw [additions_eq, rowsUnder_filterMap_additionOf?, any_sortedNames]
  cases hhas : as.has name with
  | false => exact (wireOf_of_not_has hhas).symm
  | true => rfl

end Attributes

/-! ## Both ways of writing -/

/-- **Over the wire and in memory the same rows are written.** -/
theorem wire_agrees_with_store {current desired : Entry} (hdesired : desired.attributes.Distinct) :
    (∀ s : Store, s.find? desired.name = some current → ∃ stored after,
      Store.update desired s = .ok after ∧ after.find? desired.name = some stored ∧
        ∀ name, rowsUnder ((current.attributes.changesTo desired.attributes).foldl Change.applyTo
          current.attributes.rows) name = stored.attributes.wireOf name) ∧
    (∀ s after : Store, Store.create desired s = .ok after → ∃ stored, after.find? desired.name = some stored ∧
      ∀ name, rowsUnder desired.attributes.additions name = stored.attributes.wireOf name) ∧
    (current.attributes.changesTo desired.attributes).Pairwise (fun c d => Text.sameName c.attr d.attr = false) ∧
    (∀ name, .delete name ∈ current.attributes.changesTo desired.attributes → current.attributes.has name = true) ∧
    ∀ c ∈ current.attributes.changesTo desired.attributes, c.attr ∈ desired.attributes.names := by
  refine ⟨?_, ?_, Attributes.pairwise_changesTo _ hdesired, ?_, ?_⟩
  · intro s hcurrent
    have hname : current.name.same desired.name = true := (Store.find?_eq_some_iff.1 hcurrent).1
    obtain ⟨after, hupdate, hplaces⟩ := Store.exists_update_of_find? hcurrent
    refine ⟨_, after, hupdate, hplaces.find? hname, fun name => ?_⟩
    rw [Attributes.rowsUnder_changesTo]
    exact (current.attributes.wireOf_writeAttributes hdesired name).symm
  · intro s after hcreate
    have hplaces := Store.places_of_create hcreate
    exact ⟨desired, hplaces.find? (Name.same_refl desired.name), desired.attributes.rowsUnder_additions⟩
  · intro name hdelete
    exact (Attributes.attr_of_mem_changesTo hdelete).2 rfl
  · intro c hc
    exact (Attributes.attr_of_mem_changesTo hc).1

/-- Someone with two addresses, a picture and an empty note. -/
def pictured : Entry :=
  ⟨⟨[⟨"cn", "a"⟩]⟩, ⟨[("cn", .text "a"), ("Mail", .list [.text "x", .text "y"]), ("photo", .binary [1, 2]),
    ("note", .null), ("uid", .integer 1)]⟩⟩

/-- No address, two pictures of which one is a text, and nothing for what is not there. -/
def redrawn : Entry :=
  ⟨⟨[⟨"CN", "A"⟩]⟩, ⟨[("mail", .list [.list [], .null]),
    ("PHOTO", .list [.text "t", .list [.binary [3], .binary [3]]]), ("sn", .list []), ("Note", .null)]⟩⟩

theorem wire_agrees_with_store_redrawn : redrawn.attributes.Distinct ∧
    (Store.ofEntries [pictured]).find? redrawn.name = some pictured ∧
    rowsUnder ((pictured.attributes.changesTo redrawn.attributes).foldl Change.applyTo pictured.attributes.rows)
      "photo" = [[3], [116]] ∧
    rowsUnder ((pictured.attributes.changesTo redrawn.attributes).foldl Change.applyTo pictured.attributes.rows)
      "Mail" = [] ∧
    rowsUnder ((pictured.attributes.changesTo redrawn.attributes).foldl Change.applyTo pictured.attributes.rows)
      "uid" = [[49]] ∧
    (.delete "sn" : Change) ∉ pictured.attributes.changesTo redrawn.attributes := by
  have hdistinct : redrawn.attributes.Distinct := by decide
  obtain ⟨hupdate, -, -, hdelete, -⟩ := @wire_agrees_with_store pictured redrawn hdistinct
  obtain ⟨stored, after, hafter, hstored, hrows⟩ := hupdate (.ofEntries [pictured]) rfl
  obtain rfl := Except.ok.inj hafter
  obtain rfl := Option.some.inj hstored
  refine ⟨hdistinct, rfl, (hrows _).trans ?_, (hrows _).trans ?_, (hrows _).trans ?_, fun h => ?_⟩
  · decide +kernel
  · decide +kernel
  · decide +kernel
  · exact absurd (hdelete "sn" h) (by decide)

end DirectoryAccess
