import Mathlib
import JobFlow.Proofs.Index.Names

/-!
# The order in which the index lists its rows

The index keeps its rows in the order of their signed keys (`IndexRow.keyOf`): an id below
2^63 is its own key, and an id from 2^63 on is kept as a negative key.
-/

namespace JobFlow

namespace IndexRow

theorem keyOf_lt_keyOf {a b : Nat} (aWord : a < 2 ^ 64) (bWord : b < 2 ^ 64) :
    keyOf a < keyOf b ↔ (a + 2 ^ 63) % 2 ^ 64 < (b + 2 ^ 63) % 2 ^ 64 := by
  unfold keyOf
  simp only [Nat.pow_eq]
  split <;> split <;> omega

theorem keyOf_injective {a b : Nat} (aWord : a < 2 ^ 64) (bWord : b < 2 ^ 64) (same : keyOf a = keyOf b) :
    a = b := by
  unfold keyOf at same
  simp only [Nat.pow_eq] at same
  split at same <;> split at same <;> omega

end IndexRow

/-- In a list ordered strictly by a key, the first `k` members are those with fewer than `k`
members of smaller key. -/
theorem List.mem_take_iff_countP_lt {α : Type} {key : α → Int} :
    ∀ {l : List α}, l.Pairwise (fun a b => key a < key b) → ∀ (k : Nat) (x : α),
      x ∈ l.take k ↔ x ∈ l ∧ l.countP (fun y => decide (key y < key x)) < k
  | [], _, k, x => by simp
  | y :: l, sorted, 0, x => by simp
  | y :: l, sorted, k + 1, x => by
    obtain ⟨yFirst, rest⟩ := List.pairwise_cons.1 sorted
    have later := List.mem_take_iff_countP_lt rest k x
    by_cases here : x = y
    · -- nothing before the head has a smaller key, so the head is always kept
      subst here
      have none : l.countP (fun y => decide (key y < key x)) = 0 := by
        rw [List.countP_eq_zero]
        intro z mem
        have := yFirst z mem
        simp only [decide_eq_true_eq]
        omega
      simp [none]
    · by_cases inTail : x ∈ l
      · have below : key y < key x := yFirst x inTail
        simp [here, inTail, later, below]
      · have notTaken : x ∉ l.take k := fun mem => inTail (List.mem_of_mem_take mem)
        simp [here, inTail, notTaken]

namespace JobIndex

/-- The rows are in key order; rows of one key may stand in any order among themselves. -/
def KeySorted (ix : JobIndex) : Prop := ix.rows.Pairwise (fun a b => a.key ≤ b.key)

variable {ix ix' : JobIndex}

section KeySorted

theorem KeySorted.empty : KeySorted {} := List.Pairwise.nil

theorem KeySorted.place (sorted : ix.KeySorted) (row : IndexRow) : (ix.place row).KeySorted := by
  unfold KeySorted JobIndex.place
  simp only [List.partition_eq_filter_filter]
  have lower := sorted.filter (fun r : IndexRow => decide (r.key < row.key))
  have upper := sorted.filter (not ∘ fun r : IndexRow => decide (r.key < row.key))
  refine List.pairwise_append.2 ⟨List.pairwise_append.2 ⟨lower, List.pairwise_singleton _ _, ?_⟩, upper, ?_⟩
  · intro a inLower b inRow
    simp only [List.mem_filter, decide_eq_true_eq] at inLower
    simp only [List.mem_singleton] at inRow
    subst inRow
    exact le_of_lt inLower.2
  · intro a inFront b inUpper
    simp only [List.mem_filter, Function.comp_apply, Bool.not_eq_true', decide_eq_false_iff_not,
      not_lt] at inUpper
    simp only [List.mem_append, List.mem_filter, decide_eq_true_eq, List.mem_singleton] at inFront
    rcases inFront with ⟨-, smaller⟩ | rfl
    · exact le_of_lt (lt_of_lt_of_le smaller inUpper.2)
    · exact inUpper.2

theorem KeySorted.modify (sorted : ix.KeySorted) (i : Nat) {f : IndexRow → IndexRow}
    (sameId : ∀ r, (f r).id = r.id) : (ix.modify i f).KeySorted := by
  unfold KeySorted
  rw [← List.pairwise_map (R := fun a b : Int => a ≤ b), modify_map ix i IndexRow.key fun r => by
    simp [IndexRow.key, sameId]]
  exact List.pairwise_map.2 sorted

theorem KeySorted.delete (sorted : ix.KeySorted) (i : Nat) : (ix.delete i).1.KeySorted :=
  sorted.filter _

theorem KeySorted.insert (sorted : ix.KeySorted) {n : NewRow} {i : Nat} (ok : ix.insert n = .ok (ix', i)) :
    ix'.KeySorted := by
  obtain ⟨-, row, -, placed⟩ := insert_fresh ok
  rw [placed]
  exact sorted.place row

theorem KeySorted.restore (sorted : ix.KeySorted) {row : IndexRow} (ok : ix.restore row = .ok ix') :
    ix'.KeySorted := by
  unfold JobIndex.restore at ok
  simp only [bind, Except.bind, pure, Except.pure] at ok
  split at ok
  · cases ok
  · cases ok
    exact sorted.place row

theorem KeySorted.updateStatus (sorted : ix.KeySorted) (i : Nat) (old new : Status) :
    (ix.updateStatus i old new).1.KeySorted := by
  unfold JobIndex.updateStatus
  split
  · split
    · exact sorted.modify i fun r => by simp [lifecycle_id]
    · exact sorted
  · exact sorted

theorem KeySorted.forceStatus (sorted : ix.KeySorted) {i : Nat} {s : Status} (ok : ix.forceStatus i s = .ok ix') :
    ix'.KeySorted := by
  unfold JobIndex.forceStatus at ok
  split at ok
  · cases ok
    exact sorted.modify i fun r => by simp [lifecycle_id]
  · cases ok

theorem KeySorted.claim (sorted : ix.KeySorted) (i : Nat) (expected : Status) (token : String) :
    (ix.claim i expected token).1.KeySorted := by
  unfold JobIndex.claim
  split
  · split
    · exact sorted.modify i fun r => rfl
    · exact sorted
  · exact sorted

theorem KeySorted.update (sorted : ix.KeySorted) {i : Nat} {u : IndexUpdate} (ok : ix.update i u = .ok ix') :
    ix'.KeySorted := by
  unfold JobIndex.update at ok
  split at ok
  · cases ok
    exact sorted
  · split at ok
    · cases ok
    · cases ok
      -- an update sets the master, the queue job and the reason, never the id
      refine sorted.modify i fun r => ?_
      simp only
      split <;> split <;> split <;> rfl

theorem KeySorted.requestCancel (sorted : ix.KeySorted) (i : Nat) : (ix.requestCancel i).1.KeySorted := by
  unfold JobIndex.requestCancel
  split
  · exact sorted.modify i fun r => rfl
  · exact sorted

theorem KeySorted.step (sorted : ix.KeySorted) (step : Step ix ix') : ix'.KeySorted := by
  cases step with
  | insert ok => exact sorted.insert ok
  | restore ok => exact sorted.restore ok
  | updateStatus i old new => exact sorted.updateStatus i old new
  | forceStatus ok => exact sorted.forceStatus ok
  | claim i expected token => exact sorted.claim i expected token
  | update ok => exact sorted.update ok
  | requestCancel i => exact sorted.requestCancel i
  | delete i => exact sorted.delete i

theorem keySorted_of_reachable (reach : Relation.ReflTransGen Step {} ix) : ix.KeySorted := by
  induction reach with
  | refl => exact KeySorted.empty
  | tail _ step sorted => exact sorted.step step

end KeySorted

theorem KeySorted.strict (sorted : ix.KeySorted) (keyed : ix.Keyed) (words : ∀ r ∈ ix.rows, r.id < 2 ^ 64) :
    ix.rows.Pairwise (fun a b => a.key < b.key) := by
  have apart : ix.rows.Pairwise (fun a b : IndexRow => a.id ≠ b.id) := List.pairwise_map.1 keyed.ids
  refine (sorted.and apart).imp_of_mem fun {a b} aMem bMem order => ?_
  have differ : a.key ≠ b.key := fun same =>
    order.2 (IndexRow.keyOf_injective (words a aMem) (words b bMem) same)
  exact lt_of_le_of_ne order.1 differ

theorem query_eq_take (ix : JobIndex) (f : JobFilter) :
    ix.query f = (ix.rows.filter f.admits).take (f.limit.getD (ix.rows.filter f.admits).length) := by
  unfold query
  cases f.limit with
  | none => simp
  | some k => rfl

/-- Through any sequence of the index's operations from an empty index, with every id a 64-bit
word, a query lists the rows its filter admits in strictly increasing key order; a row is listed
exactly when the filter admits it and, under a limit of `k`, fewer than `k` admitted rows have a
smaller key. -/
theorem query_lists_smallest_keys (reach : Relation.ReflTransGen Step {} ix)
    (words : ∀ r ∈ ix.rows, r.id < 2 ^ 64) (f : JobFilter) :
    (ix.query f).Pairwise (fun a b => a.key < b.key) ∧
      ∀ r, r ∈ ix.query f ↔ r ∈ ix.rows ∧ f.admits r ∧
        ∀ k ∈ f.limit, (ix.rows.filter f.admits).countP (fun y => decide (y.key < r.key)) < k := by
  have strict := (keySorted_of_reachable reach).strict (keyed_of_reachable reach) words
  have admitted := strict.filter f.admits
  rw [query_eq_take]
  refine ⟨admitted.sublist (List.take_sublist _ _), fun r => ?_⟩
  rw [List.mem_take_iff_countP_lt admitted, List.mem_filter]
  cases f.limit with
  | none =>
    -- without a limit every admitted row is kept: no row has a key smaller than its own
    simp only [Option.getD_none, Option.mem_def, reduceCtorEq, false_implies, implies_true, and_true]
    constructor
    · exact fun kept => kept.1
    · intro mem
      exact ⟨mem, List.countP_lt_length_iff.2 ⟨r, List.mem_filter.2 mem, by simp⟩⟩
  | some k => simp [and_assoc]

theorem get?_restore {row : IndexRow} (ok : ix.restore row = .ok ix') : ix'.get? row.id = some row := by
  unfold JobIndex.restore at ok
  simp only [bind, Except.bind, pure, Except.pure] at ok
  split at ok
  · cases ok
  · rename_i free
    cases ok
    simp only [not_or, Bool.not_eq_true, List.any_eq_false] at free
    exact get?_place_self row fun r mem => by simpa using free.1 r mem

/-- Through any sequence of the index's operations from an empty index, with every id a 64-bit
word, a query lists exactly the rows its filter admits that have fewer admitted rows of smaller
key than its limit, in strictly increasing key order; and a row restored into the index is found
under its id as it was given. -/
theorem rows_listed_by_key (reach : Relation.ReflTransGen Step {} ix) (words : ∀ r ∈ ix.rows, r.id < 2 ^ 64)
    (f : JobFilter) :
    ((ix.query f).Pairwise (fun a b => a.key < b.key) ∧
      ∀ r, r ∈ ix.query f ↔ r ∈ ix.rows ∧ f.admits r ∧
        ∀ k ∈ f.limit, (ix.rows.filter f.admits).countP (fun y => decide (y.key < r.key)) < k) ∧
    ∀ (row : IndexRow) (ix' : JobIndex), ix.restore row = .ok ix' → ix'.get? row.id = some row :=
  ⟨query_lists_smallest_keys reach words f, fun _ _ ok => get?_restore ok⟩

/-- A row of id 2^63 restored before a row of id 1: both are words, and the index built is one its
operations reach. -/
theorem rows_listed_by_key_large_first :
    Relation.ReflTransGen Step {}
        ((({} : JobIndex).place { (default : IndexRow) with id := 2 ^ 63, jobName := "big" }).place
          { (default : IndexRow) with id := 1, jobName := "a" }) ∧
      (∀ r ∈ ((({} : JobIndex).place { (default : IndexRow) with id := 2 ^ 63, jobName := "big" }).place
          { (default : IndexRow) with id := 1, jobName := "a" }).rows, r.id < 2 ^ 64) ∧
      ((((({} : JobIndex).place { (default : IndexRow) with id := 2 ^ 63, jobName := "big" }).place
          { (default : IndexRow) with id := 1, jobName := "a" }).query {}).Pairwise (fun a b => a.key < b.key) ∧
        ∀ r, r ∈ ((({} : JobIndex).place { (default : IndexRow) with id := 2 ^ 63, jobName := "big" }).place
            { (default : IndexRow) with id := 1, jobName := "a" }).query {} ↔
          r ∈ ((({} : JobIndex).place { (default : IndexRow) with id := 2 ^ 63, jobName := "big" }).place
            { (default : IndexRow) with id := 1, jobName := "a" }).rows ∧ JobFilter.admits {} r ∧
          ∀ k ∈ (({} : JobFilter).limit), (((({} : JobIndex).place
            { (default : IndexRow) with id := 2 ^ 63, jobName := "big" }).place
            { (default : IndexRow) with id := 1, jobName := "a" }).rows.filter (JobFilter.admits {})).countP
              (fun y => decide (y.key < r.key)) < k) ∧
      ∀ (row : IndexRow) (ix' : JobIndex),
        ((({} : JobIndex).place { (default : IndexRow) with id := 2 ^ 63, jobName := "big" }).place
          { (default : IndexRow) with id := 1, jobName := "a" }).restore row = .ok ix' → ix'.get? row.id = some row := by
  have reach : Relation.ReflTransGen Step {}
      ((({} : JobIndex).place { (default : IndexRow) with id := 2 ^ 63, jobName := "big" }).place
        { (default : IndexRow) with id := 1, jobName := "a" }) :=
    .tail (.single (.restore (r := { (default : IndexRow) with id := 2 ^ 63, jobName := "big" }) rfl))
      (.restore (r := { (default : IndexRow) with id := 1, jobName := "a" }) rfl)
  have words : ∀ r ∈ ((({} : JobIndex).place { (default : IndexRow) with id := 2 ^ 63, jobName := "big" }).place
      { (default : IndexRow) with id := 1, jobName := "a" }).rows, r.id < 2 ^ 64 := by decide
  exact ⟨reach, words, rows_listed_by_key reach words {}⟩

end JobIndex

end JobFlow
