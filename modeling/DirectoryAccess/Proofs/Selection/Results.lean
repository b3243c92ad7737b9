import DirectoryAccess.Proofs.Outcome
import DirectoryAccess.Proofs.Repository.Searching
import DirectoryAccess.Proofs.Selection.Refused
import DirectoryAccess.Selection
import Mathlib.Data.List.Basic
/-!
# The results of a selection

There are six ways to run a selection, with limits and attributes of their own, and they all speak of one list: the
entries of the directory, in stored order, that are in the scope of the repository and fulfil its classes and the
predicate (`Selection.found`).  Making results of these, one after another, gives a row of outcomes
(`Selection.outcomes`), and `results_agree` says what each way makes of it: the number of rows, whether there are any,
all results up to the first fault, the first, the only one, or the rows themselves as they are asked for.

A predicate that does not compile is the same fault in all six, and nothing is searched for.
-/
namespace DirectoryAccess
namespace Selection

open Repository (inMemory mapping_inMemory queryAt)

variable {ε ρ : Type}

/-! ## Entries found -/

/-- The entries that the selection is about, with the attributes that it fetches. -/
def found (m : Mapping ε) (placement : Placement) (q : Selection ε ρ) (base : Name) (f : Filter) (s : Store) :
    List Entry :=
  (s.entries.filter (fun e =>
    Store.inScope e.name base placement.scope && (m.restrict (some f)).selects e.attributes)).map
      (Entry.keep (q.attributes m.schema))

section

variable (m : Mapping ε) (placement : Placement) (q : Selection ε ρ) (base : Name) (f : Filter) (s : Store)

theorem matching_queryAt :
    s.matching (queryAt m placement base (some f) (q.attributes m.schema) none) = q.found m placement base f s := rfl

theorem matching_queryAt_limit (n : UInt64) :
    s.matching (queryAt m placement base (some f) (q.attributes m.schema) (some n)) =
      (q.found m placement base f s).take n.toNat :=
  Store.matching_limit s (queryAt m placement base (some f) (q.attributes m.schema) none) n

/-- How many entries there are does not depend on the attributes that are fetched. -/
theorem length_matching_queryAt (attributes : List String) :
    (s.matching (queryAt m placement base (some f) attributes none)).length =
      (q.found m placement base f s).length := by
  rw [Store.length_matching s rfl, found, List.length_map]
  rfl

theorem length_matching_queryAt_limit (attributes : List String) (n : UInt64) :
    (s.matching (queryAt m placement base (some f) attributes (some n))).length =
      min n.toNat (q.found m placement base f s).length := by
  rw [← length_matching_queryAt m placement q base f s attributes, ← List.length_take]
  exact congrArg List.length (Store.matching_limit s (queryAt m placement base (some f) attributes none) n)

end

/-! ## Results one after another -/

/-- What becomes of the entries when results are made of them in turn.  A fault ends nothing. -/
def outcomes (s : Schema ε) (shape : Shape ε ρ) : List Entry → Memo → List (Except Fault ρ)
  | [], _ => []
  | entry :: entries, memo =>
    ((convert s shape entry).exec memo).1 :: outcomes s shape entries ((convert s shape entry).exec memo).2

/-- What a caller sees who takes at most so many results. -/
def Pending.draw : Nat → Pending ε ρ → Memo → List (Except Fault ρ)
  | 0, _, _ => []
  | k + 1, p, memo =>
    match p.next? with
    | none => []
    | some (row, rest) => (row.exec memo).1 :: draw k rest (row.exec memo).2

/-- The first outcome, if there is one. -/
def firstOf : List (Except Fault ρ) → Except Fault (Option ρ)
  | [] => .ok none
  | row :: _ => row.map some

/-- The only outcome, if there is one; more are a fault, however many. -/
def onlyOf : List (Except Fault ρ) → Except Fault (Option ρ)
  | [] => .ok none
  | [row] => row.map some
  | _ => .error (.cardinality 1 2)

theorem length_outcomes (s : Schema ε) (shape : Shape ε ρ) : ∀ (entries : List Entry) (memo : Memo),
    (outcomes s shape entries memo).length = entries.length
  | [], _ => rfl
  | entry :: entries, memo => by
    rw [outcomes, List.length_cons, List.length_cons, length_outcomes s shape entries]

theorem draw_eq_take : ∀ (k : Nat) (p : Pending ε ρ) (memo : Memo),
    p.draw k memo = (outcomes p.schema p.shape p.entries memo).take k
  | 0, _, _ => rfl
  | k + 1, p, memo => by
    obtain ⟨schema, shape, entries⟩ := p
    cases entries with
    | nil => rfl
    | cons entry entries =>
      rw [outcomes, List.take_succ_cons]
      exact congrArg (_ :: ·) (draw_eq_take k ⟨schema, shape, entries⟩ _)

/-- Results are collected up to the first fault. -/
theorem exec_convertAll (s : Schema ε) (shape : Shape ε ρ) : ∀ (entries : List Entry) (memo : Memo),
    ((convertAll s shape entries).exec memo).1 = (outcomes s shape entries memo).mapM id
  | [], _ => rfl
  | entry :: entries, memo => by
    have ih := exec_convertAll s shape entries ((convert s shape entry).exec memo).2
    rw [convertAll, outcomes, List.mapM_cons, Action.exec_bind]
    rcases hrow : (convert s shape entry).exec memo with ⟨fault | row, memo'⟩
    · rfl
    · rw [hrow] at ih
      dsimp only at ih ⊢
      rw [Action.exec_bind, ← ih]
      rcases (convertAll s shape entries).exec memo' with ⟨_ | _, _⟩ <;> rfl

/-! ## Running a selection -/

section

variable {m : Mapping ε} {placement : Placement} {q : Selection ε ρ} {base : Name} {f : Filter}

variable (hbase : (inMemory m placement).searchBase = .ok base) (hf : q.predicate.compile m.schema = .ok f)

include hbase hf

theorem exec_search (limit : Option UInt64) (s : Store) :
    (q.search (inMemory m placement) limit).exec s =
      (.ok (s.matching (queryAt m placement base (some f) (q.attributes m.schema) limit)),
        s.ask (queryAt m placement base (some f) (q.attributes m.schema) limit)) := by
  unfold search
  rw [Action.exec_bind, Action.exec_ofExcept, mapping_inMemory, hf]
  exact Repository.exec_searchEntries hbase (some f) (q.attributes m.schema) limit s

theorem exec_stream (s : Store) :
    (q.stream (inMemory m placement)).exec s =
      (.ok ⟨m.schema, q.shape, q.found m placement base f s⟩,
        s.ask (queryAt m placement base (some f) (q.attributes m.schema) none)) := by
  unfold stream
  rw [Action.exec_bind, exec_search hbase hf, matching_queryAt]
  rfl

theorem exec_count (s : Store) :
    (q.count (inMemory m placement)).exec s =
      (.ok (q.found m placement base f s).length,
        s.ask (queryAt m placement base (some f) [countAttribute] none)) := by
  unfold count
  rw [Action.exec_bind, Action.exec_ofExcept, mapping_inMemory, hf]
  dsimp only
  rw [Repository.exec_countMatching hbase, length_matching_queryAt m placement q]

theorem exec_exists (s : Store) :
    (q.exists? (inMemory m placement)).exec s =
      (.ok (decide (0 < (q.found m placement base f s).length)),
        s.ask (queryAt m placement base (some f) [countAttribute] (some 1))) := by
  have hpositive : 0 < min (1 : UInt64).toNat (q.found m placement base f s).length ↔
      0 < (q.found m placement base f s).length := by
    have hone : (1 : UInt64).toNat = 1 := rfl
    omega
  unfold exists?
  rw [Action.exec_bind, Action.exec_ofExcept, mapping_inMemory, hf]
  dsimp only
  rw [Action.exec_bind, Repository.exec_countMatching hbase, length_matching_queryAt_limit m placement q]
  dsimp only
  rw [Action.exec_pure]
  simp only [hpositive]

theorem exec_all (s : Store) (memo : Memo) :
    (q.all (inMemory m placement)).exec (s, memo) =
      (((convertAll m.schema q.shape (q.found m placement base f s)).exec memo).1,
        (s.ask (queryAt m placement base (some f) (q.attributes m.schema) none),
          ((convertAll m.schema q.shape (q.found m placement base f s)).exec memo).2)) := by
  unfold all
  rw [Action.exec_bind, Action.exec_onFirst, exec_stream hbase hf]
  rfl

theorem exec_first (s : Store) (memo : Memo) :
    ((q.first (inMemory m placement)).exec (s, memo)).1 =
        firstOf (outcomes m.schema q.shape (q.found m placement base f s) memo) ∧
      ((q.first (inMemory m placement)).exec (s, memo)).2.1 =
        s.ask (queryAt m placement base (some f) (q.attributes m.schema) (some 2)) := by
  unfold first
  rw [Action.exec_bind, Action.exec_onFirst, exec_search hbase hf, matching_queryAt_limit]
  cases q.found m placement base f s with
  | nil => exact ⟨rfl, rfl⟩
  | cons entry entries =>
    have htake : (entry :: entries).take (2 : UInt64).toNat = entry :: entries.take 1 := rfl
    rw [htake, outcomes, mapping_inMemory]
    dsimp only
    rw [Action.exec_bind, Action.exec_onSecond]
    rcases (convert m.schema q.shape entry).exec memo with ⟨_ | _, _⟩ <;> exact ⟨rfl, rfl⟩

theorem exec_one (s : Store) (memo : Memo) :
    ((q.one (inMemory m placement)).exec (s, memo)).1 =
        onlyOf (outcomes m.schema q.shape (q.found m placement base f s) memo) ∧
      ((q.one (inMemory m placement)).exec (s, memo)).2.1 =
        s.ask (queryAt m placement base (some f) (q.attributes m.schema) (some 2)) := by
  unfold one
  rw [Action.exec_bind, Action.exec_onFirst, exec_search hbase hf, matching_queryAt_limit]
  rcases q.found m placement base f s with _ | ⟨entry, _ | ⟨other, entries⟩⟩
  · exact ⟨rfl, rfl⟩
  · have htake : [entry].take (2 : UInt64).toNat = [entry] := rfl
    rw [htake, outcomes, outcomes, mapping_inMemory]
    dsimp only
    rw [Action.exec_bind, Action.exec_onSecond]
    rcases (convert m.schema q.shape entry).exec memo with ⟨_ | _, _⟩ <;> exact ⟨rfl, rfl⟩
  · exact ⟨rfl, rfl⟩

end

/-- **All ways to run a selection speak of one list.** -/
theorem results_agree {m : Mapping ε} {placement : Placement} {relative : Name}
    (hbase : Name.read m.schema.base = .ok relative) (q : Selection ε ρ) (s : Store) (memo : Memo) :
    let r := inMemory m placement
    (∀ fault, q.predicate.compile m.schema = .error fault →
      (q.one r).exec (s, memo) = (.error fault, (s, memo)) ∧
      (q.first r).exec (s, memo) = (.error fault, (s, memo)) ∧
      (q.all r).exec (s, memo) = (.error fault, (s, memo)) ∧
      (q.stream r).exec s = (.error fault, s) ∧
      (q.count r).exec s = (.error fault, s) ∧
      (q.exists? r).exec s = (.error fault, s)) ∧
    ∀ f, q.predicate.compile m.schema = .ok f →
      ∃ base, r.searchBase = .ok base ∧
        let asked := fun attributes limit => s.ask (queryAt m placement base (some f) attributes limit)
        let entries := q.found m placement base f s
        let made := outcomes m.schema q.shape entries memo
        (q.search r none).exec s = (.ok entries, asked (q.attributes m.schema) none) ∧
        (q.count r).exec s = (.ok entries.length, asked [countAttribute] none) ∧
        (q.exists? r).exec s = (.ok (decide (0 < entries.length)), asked [countAttribute] (some 1)) ∧
        (((q.all r).exec (s, memo)).1 = made.mapM id ∧
          ((q.all r).exec (s, memo)).2.1 = asked (q.attributes m.schema) none) ∧
        (∃ pending, (q.stream r).exec s = (.ok pending, asked (q.attributes m.schema) none) ∧
          (∀ k, pending.draw k memo = made.take k) ∧
          (pending.collect.exec memo).1 = ((q.all r).exec (s, memo)).1) ∧
        (((q.first r).exec (s, memo)).1 = firstOf made ∧
          ((q.first r).exec (s, memo)).2.1 = asked (q.attributes m.schema) (some 2)) ∧
        ((q.one r).exec (s, memo)).1 = onlyOf made ∧
          ((q.one r).exec (s, memo)).2.1 = asked (q.attributes m.schema) (some 2) ∧
        made.length = entries.length := by
  intro r
  constructor
  · exact fun fault hfault => exec_of_fault hfault s memo
  · intro f hf
    have hexists : ∃ base, r.searchBase = .ok base := Repository.exists_searchBase hbase
    obtain ⟨base, hbase⟩ := hexists
    refine ⟨base, hbase, ?_⟩
    intro asked entries made
    have hall := exec_all hbase hf s memo
    have hcollected : ((q.all r).exec (s, memo)).1 = made.mapM id := by
      rw [hall]
      exact exec_convertAll m.schema q.shape entries memo
    refine ⟨exec_search hbase hf none s, exec_count hbase hf s, exec_exists hbase hf s, ⟨hcollected, ?_⟩,
      ⟨_, exec_stream hbase hf s, fun k => draw_eq_take k _ memo, ?_⟩, exec_first hbase hf s memo,
      (exec_one hbase hf s memo).1, (exec_one hbase hf s memo).2, length_outcomes m.schema q.shape entries memo⟩
    · rw [hall]
    · rw [hall]
      rfl

/-- Labels, each in an entry of its own. -/
def labels : Mapping String where
  schema :=
    { typeName := "Label"
      classes := []
      base := "ou=labels"
      properties := [.naming "label" "cn"]
      id? := fun _ => none
      setId := fun _ e => e
      attributes := fun e => ⟨[("cn", .text e)]⟩
      ofEntry := fun e => (e.attributes.text? "cn").elim (.error .emptyResult) .ok }
  base := .root

/-- A label, an entry from which the label is gone, and an entry that stands elsewhere. -/
def labelled : Store :=
  .ofEntries [⟨⟨[⟨"cn", "a"⟩, ⟨"ou", "labels"⟩]⟩, ⟨[("cn", .text "a")]⟩⟩,
    ⟨⟨[⟨"uid", "b"⟩, ⟨"ou", "labels"⟩]⟩, ⟨[]⟩⟩, ⟨⟨[⟨"cn", "c"⟩]⟩, ⟨[("cn", .text "c")]⟩⟩]

/-- With a row that cannot be made, `first` gives a label, `one` sees that there are two, and `all` meets the fault. -/
theorem results_agree_two_labels :
    let q := ofPredicate (.not (.compare .equal "label" (.text "z")))
    Name.read labels.schema.base = .ok ⟨[⟨"ou", "labels"⟩]⟩ ∧
      ((q.count (inMemory labels {})).exec labelled).1 = .ok 2 ∧
      ((q.exists? (inMemory labels {})).exec labelled).1 = .ok true ∧
      ((q.first (inMemory labels {})).exec (labelled, {})).1 = .ok (some "a") ∧
      ((q.one (inMemory labels {})).exec (labelled, {})).1 = .error (.cardinality 1 2) ∧
      ((q.all (inMemory labels {})).exec (labelled, {})).1 = .error .emptyResult := by
  intro q
  have hbase : Name.read labels.schema.base = .ok ⟨[⟨"ou", "labels"⟩]⟩ := by decide +kernel
  have hplace : (inMemory labels {}).searchBase = .ok ⟨[⟨"ou", "labels"⟩]⟩ := by decide +kernel
  obtain ⟨base, hsearch, -, hcount, hexists, ⟨hall, -⟩, -, ⟨hfirst, -⟩, hone, -⟩ :=
    (@results_agree String String labels {} _ hbase q labelled {}).2 _ rfl
  rw [hplace] at hsearch
  obtain rfl := Except.ok.inj hsearch
  refine ⟨hbase, ?_, ?_, ?_, ?_, ?_⟩
  · rw [hcount]
    rfl
  · rw [hexists]
    rfl
  · rw [hfirst]
    rfl
  · rw [hone]
    rfl
  · rw [hall]
    rfl

end Selection
end DirectoryAccess
