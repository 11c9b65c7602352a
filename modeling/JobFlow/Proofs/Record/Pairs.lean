import JobFlow.Proofs.Record.Paths
import JobFlow.Config.Read
import Mathlib.Data.List.Induction

/-!
The stored pairs of a record as a finite map from keys to bytes, and the writes a scope
collects on top of them.
-/

namespace JobFlow

theorem lookup_cons_ite {β : Type} (k k' : String) (v : β) (l : List (String × β)) :
    ((k,v) :: l).lookup k' = if k' = k then some v else l.lookup k' := by
  by_cases same : k' = k
  · subst same; simp
  · have differ : (k' == k) = false := by simpa using same
    simp [List.lookup_cons,differ,same]

/-! ### Sorted insertion

Stored pairs, object members and configuration maps all insert a key the same way; what
follows is proved once of that insertion and read off for each of them. -/

section insertSorted

variable {β : Type} {k : String} {v : β}

theorem eq_or_mem_of_mem_insertSorted {x : String × β} :
    ∀ {l : List (String × β)}, x ∈ insertSorted k v l → x = (k, v) ∨ x ∈ l
  | [], mem => by simpa [insertSorted] using mem
  | (j, w) :: rest, mem => by
    simp only [insertSorted] at mem
    split at mem
    · simpa using mem
    · split at mem
      · rcases List.mem_cons.1 mem with here | there
        · exact .inl here
        · exact .inr (List.mem_cons_of_mem _ there)
      · rcases List.mem_cons.1 mem with here | there
        · exact .inr (here ▸ List.mem_cons_self)
        · exact (eq_or_mem_of_mem_insertSorted there).imp_right (List.mem_cons_of_mem _)

theorem lookup_insertSorted (l : List (String × β)) (k' : String) :
    (insertSorted k v l).lookup k' = if k' = k then some v else l.lookup k' := by
  induction l with
  | nil => simp [insertSorted,lookup_cons_ite]
  | cons kv rest ih =>
    obtain ⟨j,w⟩ := kv
    by_cases lt : k < j
    · by_cases same : k' = k <;> simp [insertSorted,lt,lookup_cons_ite,same]
    · by_cases eq : k = j
      · subst eq
        by_cases same : k' = k <;> simp [insertSorted,lookup_cons_ite,same]
      · simp only [insertSorted,lt,eq,if_false,lookup_cons_ite,ih]
        by_cases same : k' = k
        · subst same; simp [eq]
        · by_cases here : k' = j <;> simp [same,here,Ne.symm eq]

theorem pairwise_insertSorted {l : List (String × β)} (sorted : l.Pairwise (fun a b => a.1 < b.1)) :
    (insertSorted k v l).Pairwise (fun a b => a.1 < b.1) := by
  induction l with
  | nil => simp [insertSorted]
  | cons kv rest ih =>
    obtain ⟨j,w⟩ := kv
    have tail := (List.pairwise_cons.1 sorted).2
    have above : ∀ x ∈ rest, j < x.1 := (List.pairwise_cons.1 sorted).1
    simp only [insertSorted]
    split
    · rename_i lt
      refine List.Pairwise.cons ?_ sorted
      intro x mem
      rcases List.mem_cons.1 mem with rfl | there
      · exact lt
      · exact lt_trans lt (above x there)
    · split
      · rename_i _ eq
        subst eq
        exact List.Pairwise.cons above tail
      · rename_i lt eq
        -- the key goes after the head, which is below it and below the rest
        have gt : j < k := lt_of_le_of_ne (not_lt.1 lt) (Ne.symm eq)
        refine List.Pairwise.cons ?_ (ih tail)
        intro x mem
        rcases eq_or_mem_of_mem_insertSorted mem with rfl | there
        · exact gt
        · exact above x there

end insertSorted

theorem insertField_eq_insertSorted (k : String) (v : Json) (fs : List (String × Json)) :
    Json.insertField k v fs = insertSorted k v fs := by
  induction fs with
  | nil => rfl
  | cons kv rest ih => simp only [Json.insertField,insertSorted,ih]

end JobFlow

namespace JobFlow.Pairs

/-- Keys strictly increasing, the order every record database keeps. -/
def Sorted (ps : Pairs) : Prop := ps.Pairwise (fun a b => a.1 < b.1)

theorem get?_nil (k : String) : Pairs.get? [] k = none := rfl

theorem get?_cons (k k' : String) (v : ByteArray) (ps : Pairs) :
    Pairs.get? ((k',v) :: ps) k = if k = k' then some v else ps.get? k :=
  lookup_cons_ite k' k v ps

theorem get?_isSome_iff {ps : Pairs} {k : String} : (ps.get? k).isSome ↔ ∃ v, (k,v) ∈ ps := by
  induction ps with
  | nil => simp [get?_nil]
  | cons kv rest ih =>
    obtain ⟨k',v'⟩ := kv
    by_cases same : k = k'
    · subst same; simp [get?_cons]
    · simp [get?_cons,same,ih]

theorem insert_eq_insertSorted (ps : Pairs) (k : String) (v : ByteArray) : ps.insert k v = insertSorted k v ps := by
  induction ps with
  | nil => rfl
  | cons kv rest ih => simp only [Pairs.insert,insertSorted,ih]

theorem get?_insert (ps : Pairs) (k : String) (v : ByteArray) (k' : String) :
    (ps.insert k v).get? k' = if k' = k then some v else ps.get? k' := by
  rw [insert_eq_insertSorted]
  exact lookup_insertSorted ps k'

theorem get?_erase (ps : Pairs) (k k' : String) :
    (ps.erase k).get? k' = if k' = k then none else ps.get? k' := by
  induction ps with
  | nil => simp [Pairs.erase,get?_nil]
  | cons kv rest ih =>
    obtain ⟨k₀,v₀⟩ := kv
    simp only [Pairs.erase] at ih
    by_cases same : k₀ = k
    · subst same
      simp only [Pairs.erase,List.filter_cons,bne_self_eq_false,Bool.false_eq_true,if_false,ih,get?_cons]
      by_cases here : k' = k₀ <;> simp [here]
    · have keep : (k₀ != k) = true := by simpa using same
      simp only [Pairs.erase,List.filter_cons,keep,if_true,get?_cons,ih]
      by_cases here : k' = k₀
      · subst here; simp [same]
      · simp [here]

theorem sorted_insert {ps : Pairs} (sorted : Sorted ps) (k : String) (v : ByteArray) : Sorted (ps.insert k v) := by
  rw [insert_eq_insertSorted]
  exact pairwise_insertSorted sorted

theorem sorted_erase {ps : Pairs} (sorted : Sorted ps) (k : String) : Sorted (ps.erase k) :=
  List.Pairwise.sublist List.filter_sublist sorted

theorem get?_of_mem {ps : Pairs} (sorted : Sorted ps) {k : String} {v : ByteArray} (mem : (k,v) ∈ ps) :
    ps.get? k = some v := by
  induction ps with
  | nil => cases mem
  | cons kv rest ih =>
    obtain ⟨k₀,v₀⟩ := kv
    have above : ∀ x ∈ rest, k₀ < x.1 := (List.pairwise_cons.1 sorted).1
    simp only [List.mem_cons,Prod.mk.injEq] at mem
    rcases mem with ⟨rfl,rfl⟩ | there
    · simp [get?_cons]
    · have ne : k ≠ k₀ := ne_of_gt (above _ there)
      rw [get?_cons,if_neg ne]
      exact ih (List.pairwise_cons.1 sorted).2 there

theorem mem_keysWith {ps : Pairs} {pre k : String} :
    k ∈ ps.keysWith pre ↔ pre.toList <+: k.toList ∧ (ps.get? k).isSome := by
  simp only [Pairs.keysWith,List.mem_map,List.mem_filter,get?_isSome_iff,String.startsWith_string_iff]
  constructor
  · rintro ⟨⟨k',v⟩,⟨mem,pre'⟩,rfl⟩
    exact ⟨pre',v,mem⟩
  · rintro ⟨pre',v,mem⟩
    exact ⟨(k,v),⟨mem,pre'⟩,rfl⟩

end JobFlow.Pairs

namespace JobFlow.Scope

open Pairs

/-- One staged write applied to stored pairs. -/
def applyWrite (ps : Pairs) (kv : String × Option ByteArray) : Pairs :=
  match kv.2 with
  | some v => ps.insert kv.1 v
  | none => ps.erase kv.1

@[simp] theorem base_stage (s : Scope) (k : String) (v : Option ByteArray) : (s.stage k v).base = s.base := rfl

@[simp] theorem get?_applyWrite (ps : Pairs) (k : String) (v : Option ByteArray) (k' : String) :
    (applyWrite ps (k,v)).get? k' = if k' = k then v else ps.get? k' := by
  cases v with
  | some v => simp [applyWrite,get?_insert]
  | none => simp [applyWrite,get?_erase]

theorem get?_foldl_applyWrite (l : List (String × Option ByteArray)) (ps : Pairs) (k : String) :
    (l.foldl applyWrite ps).get? k = (l.reverse.lookup k).getD (ps.get? k) := by
  induction l using List.reverseRecOn with
  | nil => rfl
  | append_singleton init kv ih =>
    obtain ⟨k',v⟩ := kv
    rw [List.foldl_append,List.foldl_cons,List.foldl_nil,get?_applyWrite,List.reverse_append,List.reverse_singleton,
      List.singleton_append,lookup_cons_ite,ih]
    by_cases same : k = k' <;> simp [same]

theorem get?_merged (s : Scope) (db : Pairs) (k : String) :
    (s.merged db).get? k = (s.pending.reverse.lookup k).getD (db.get? k) :=
  get?_foldl_applyWrite _ _ _

private theorem lookup_filter_ne {k k' : String} (differ : k' ≠ k) (l : List (String × Option ByteArray)) :
    (l.filter (·.1 != k)).lookup k' = l.lookup k' := by
  induction l with
  | nil => rfl
  | cons kv rest ih =>
    obtain ⟨j,v⟩ := kv
    by_cases drop : j = k
    · subst drop
      simp [lookup_cons_ite,differ,ih]
    · have keep : (j != k) = true := by simpa using drop
      simp only [List.filter_cons,keep,if_true,lookup_cons_ite,ih]

@[simp] theorem get?_merged_stage (s : Scope) (db : Pairs) (k : String) (v : Option ByteArray) (k' : String) :
    ((s.stage k v).merged db).get? k' = if k' = k then v else (s.merged db).get? k' := by
  simp only [get?_merged,stage,List.reverse_append,List.reverse_singleton,List.singleton_append,lookup_cons_ite]
  by_cases same : k' = k
  · simp [same]
  · rw [if_neg same,if_neg same,← List.filter_reverse,lookup_filter_ne same]

theorem sorted_foldl_applyWrite (l : List (String × Option ByteArray)) {ps : Pairs} (sorted : Sorted ps) :
    Sorted (l.foldl applyWrite ps) := by
  induction l generalizing ps with
  | nil => exact sorted
  | cons kv rest ih =>
    obtain ⟨k,v⟩ := kv
    apply ih
    cases v with
    | some v => exact sorted_insert sorted k v
    | none => exact sorted_erase sorted k

theorem sorted_merged (s : Scope) {db : Pairs} (sorted : Sorted db) : Sorted (s.merged db) :=
  sorted_foldl_applyWrite _ sorted

end JobFlow.Scope
