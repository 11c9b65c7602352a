import JobFlow.Proofs.Record.Overlay
import JobFlow.Jobs.Layout

/-!
# The entries of a job record

A job record keeps its status at `generic/status`, the failure of an aborted run at
`generic/failure` and the output at `output`.
-/

namespace JobFlow

open RecordPath RecordKey RecordTree

namespace Leaf

/-- A decoded leaf checked against a string, as evaluation can decide it. -/
theorem eq_str_of_check {o : Outcome Json} {n : String}
    (check : (match o with
      | .ok (.str t) => t == n
      | _ => false) = true) : o = .ok (.str n) := by
  split at check
  · rw [beq_iff_eq.1 check]
  · cases check

theorem decode_encode_status (cfg : StorageConfig) (s : Status) :
    decode (encode cfg (.str s.name)) = .ok (.str s.name) := by
  -- the two encodings of every status name are read back by evaluation
  have plain : ∀ s : Status,
      (match decode (ByteArray.mk ((0 :: (Json.str s.name).compact.toUTF8.toList).toArray)) with
        | .ok (.str t) => t == s.name
        | _ => false) = true := by
    intro s
    cases s <;> decide +kernel
  have packed : ∀ s : Status,
      (match decode (ByteArray.mk ((1 :: Zstd.compress (Json.str s.name).compact.toUTF8.toList).toArray)) with
        | .ok (.str t) => t == s.name
        | _ => false) = true := by
    intro s
    cases s <;> decide +kernel
  unfold encode
  dsimp only
  split
  · exact eq_str_of_check (packed s)
  · exact eq_str_of_check (plain s)

end Leaf

theorem Status.readValue_name (s : Status) : readValue Status.read (.str s.name) = .ok s := by
  cases s <;> rfl

namespace Json

theorem valueAbove_of_at? {t j : Json} {q : List String} (found : t.at? q = some j) : t.valueAbove q = none := by
  cases above : t.valueAbove q with
  | none => rfl
  | some c =>
    obtain ⟨-, ⟨r, rfl⟩, neq, ⟨v, value⟩, -⟩ := valueAbove_eq_some above
    have below : r ≠ [] := fun empty => neq (by simp [empty])
    obtain ⟨fs, obj⟩ := at?_above_obj found below
    simp [entryAt, obj, entry] at value

theorem valueAbove_below_obj {t : Json} {p : List String} {fs : List (String × Json)} (found : t.at? p = some (.obj fs))
    (k : String) : t.valueAbove (p ++ [k]) = none := by
  cases above : t.valueAbove (p ++ [k]) with
  | none => rfl
  | some c =>
    obtain ⟨-, pre, neq, ⟨v, value⟩, -⟩ := valueAbove_eq_some above
    obtain ⟨r, rfl⟩ := (List.prefix_concat_iff.1 pre).resolve_left neq
    -- what stands at `c` is the object at `p` or one above it
    have group : ∃ gs, t.at? c = some (.obj gs) := by
      by_cases here : r = []
      · subst here
        exact ⟨fs, by simpa using found⟩
      · exact at?_above_obj found here
    obtain ⟨gs, obj⟩ := group
    simp [entryAt, obj, entry] at value

theorem sorted_mkObj {fields : List (String × Json)} (inner : ∀ kv ∈ fields, kv.2.Sorted) : (mkObj fields).Sorted := by
  -- each member is set into the object built so far
  have step : ∀ (fs : List (String × Json)) (acc : List (String × Json)), (Json.obj acc).Sorted →
      (∀ kv ∈ fs, kv.2.Sorted) → (Json.obj (fs.foldl (fun acc kv => insertField kv.1 kv.2 acc) acc)).Sorted := by
    intro fs
    induction fs with
    | nil => exact fun _ sorted _ => sorted
    | cons kv rest ih =>
      intro acc sorted members
      exact ih _ (sorted.set (members kv List.mem_cons_self) kv.1)
        (fun x mem => members x (List.mem_cons_of_mem _ mem))
  exact step fields [] (fun q fs found => by cases q <;> cases found; exact List.Pairwise.nil) inner

theorem eq_or_mem_of_mem_insertField {k : String} {v : Json} {x : String × Json} {fs : List (String × Json)}
    (mem : x ∈ insertField k v fs) : x = (k, v) ∨ x ∈ fs :=
  eq_or_mem_of_mem_insertSorted (insertField_eq_insertSorted k v fs ▸ mem)

theorem firstBadField_eq_none : ∀ fs : List (String × Json),
    firstBadField fs = none ↔ ∀ kv ∈ fs, Segment kv.1 ∧ kv.2.firstBadName = none
  | [] => by simp [firstBadField]
  | (k, v) :: rest => by
    by_cases seg : Segment k
    · simp [firstBadField, seg, firstBadField_eq_none rest]
    · simp [firstBadField, seg]

theorem firstBadName_mkObj {fields : List (String × Json)}
    (good : ∀ kv ∈ fields, Segment kv.1 ∧ kv.2.firstBadName = none) : (mkObj fields).firstBadName = none := by
  have step : ∀ (fs acc : List (String × Json)), firstBadField acc = none →
      (∀ kv ∈ fs, Segment kv.1 ∧ kv.2.firstBadName = none) →
        firstBadField (fs.foldl (fun acc kv => insertField kv.1 kv.2 acc) acc) = none := by
    intro fs
    induction fs with
    | nil => exact fun _ done _ => done
    | cons kv rest ih =>
      intro acc done members
      refine ih _ ((firstBadField_eq_none _).2 fun x mem => ?_) (fun x mem => members x (List.mem_cons_of_mem _ mem))
      rcases eq_or_mem_of_mem_insertField mem with rfl | old
      · exact members _ List.mem_cons_self
      · exact (firstBadField_eq_none acc).1 done x old
  exact step fields [] rfl good

end Json

namespace Failure

open Json

theorem ofInt_ne_obj (c : Int) (fs : List (String × Json)) : Json.ofInt c ≠ .obj fs := by
  unfold Json.ofInt
  split <;> simp

theorem exitCode_ne_obj (f : Failure) (fs : List (String × Json)) :
    (match f.exitCode with
      | some c => Json.ofInt c
      | none => .null) ≠ .obj fs := by
  cases f.exitCode with
  | some c => exact ofInt_ne_obj c fs
  | none => simp

theorem toJson_sorted (f : Failure) : f.toJson.Sorted := by
  refine sorted_mkObj fun kv mem => Sorted.of_not_obj fun fs => ?_
  simp only [List.mem_cons, List.not_mem_nil, or_false] at mem
  rcases mem with rfl | rfl | rfl | rfl
  · simp
  · simp
  · exact exitCode_ne_obj f fs
  · cases f.stderrTail <;> simp [Json.ofOptString]

theorem toJson_firstBadName (f : Failure) : f.toJson.firstBadName = none := by
  refine firstBadName_mkObj fun kv mem => ?_
  simp only [List.mem_cons, List.not_mem_nil, or_false] at mem
  rcases mem with rfl | rfl | rfl | rfl
  · exact ⟨show Segment "reason" by decide, rfl⟩
  · exact ⟨show Segment "message" by decide, rfl⟩
  · exact ⟨show Segment "exit_code" by decide, Scope.firstBadName_of_not_obj (exitCode_ne_obj f)⟩
  · exact ⟨show Segment "stderr_tail" by decide, by cases f.stderrTail <;> rfl⟩

end Failure

namespace Layout

/-- The segments of the status's path. -/
def statusAt : List String := ["generic", "status"]

/-- The segments of the failure's path. -/
def failureAt : List String := ["generic", "failure"]

/-- The segments of the output's path. -/
def outputAt : List String := ["output"]

theorem normalize_status : normalize status = .ok (ofSegments statusAt) := by
  have spelled : status = ofSegments statusAt := by decide +kernel
  rw [spelled]
  exact normalize_ofSegments (by unfold Valid; decide)

theorem normalize_failure : normalize failure = .ok (ofSegments failureAt) := by
  have spelled : failure = ofSegments failureAt := by decide +kernel
  rw [spelled]
  exact normalize_ofSegments (by unfold Valid; decide)

theorem normalize_output : normalize output = .ok (ofSegments outputAt) := by
  have spelled : output = ofSegments outputAt := by decide +kernel
  rw [spelled]
  exact normalize_ofSegments (by unfold Valid; decide)

open Json

theorem valid_statusAt : Valid statusAt := by unfold Valid; decide

theorem valid_failureAt : Valid failureAt := by unfold Valid; decide

theorem valid_outputAt : Valid outputAt := by unfold Valid; decide

theorem statusAt_apart_failureAt : ¬ statusAt <+: failureAt ∧ ¬ failureAt <+: statusAt := by decide

theorem statusAt_apart_outputAt : ¬ statusAt <+: outputAt ∧ ¬ outputAt <+: statusAt := by decide

theorem failure_free {t x : Json} (found : t.at? statusAt = some x) : t.valueAbove failureAt = none := by
  obtain ⟨fs, generic⟩ := at?_above_obj (p := ["generic"]) (q := ["status"]) found (by simp)
  exact valueAbove_below_obj generic "failure"

end Layout

namespace Scope

variable {db : Pairs}

theorem root_stage {s : Scope} {k : String} (other : k ≠ group "") (v : Option ByteArray) :
    ((s.stage k v).merged db).get? (group "") = (s.merged db).get? (group "") := by
  rw [get?_merged_stage, if_neg (Ne.symm other)]

theorem group_ne_root {p : String} (full : p ≠ "") : group p ≠ group "" :=
  fun same => full (group_inj.1 same)

theorem join_ne_empty {parent : String} (full : parent ≠ "") (name : String) : join parent name ≠ "" := by
  unfold join
  have : parent.isEmpty = false := by simpa using full
  simp [this]

theorem root_removeSubtree (s : Scope) {path : String} (full : path ≠ "") :
    ((removeSubtree db s path).merged db).get? (group "") = (s.merged db).get? (group "") := by
  rw [get?_merged_removeSubtree, if_neg]
  rintro (isLeaf | isGroup | ⟨-, long⟩)
  · exact leaf_ne_group _ _ isLeaf.symm
  · exact full (group_inj.1 isGroup).symm
  · exact absurd long (by decide)

variable (cfg : StorageConfig)

mutual
/-- Putting a value below the root stages keys below the root only. -/
theorem root_put : ∀ (v : Json) {path : String} {s s' : Scope}, path ≠ "" → put cfg path v s = .ok s' →
    (s'.merged db).get? (group "") = (s.merged db).get? (group "")
  | .obj fs, path, s, s', full, ok => by
    obtain ⟨tags, run⟩ := put_obj cfg path fs s
    rw [run] at ok
    rw [root_putFields fs full ok, root_stage (group_ne_root full)]
  | .null, path, s, s', full, ok => by
    rw [put_of_not_obj cfg path (by simp) s] at ok
    cases ok
    exact root_stage (leaf_ne_group _ _) _
  | .bool _, path, s, s', full, ok => by
    rw [put_of_not_obj cfg path (by simp) s] at ok
    cases ok
    exact root_stage (leaf_ne_group _ _) _
  | .num _, path, s, s', full, ok => by
    rw [put_of_not_obj cfg path (by simp) s] at ok
    cases ok
    exact root_stage (leaf_ne_group _ _) _
  | .str _, path, s, s', full, ok => by
    rw [put_of_not_obj cfg path (by simp) s] at ok
    cases ok
    exact root_stage (leaf_ne_group _ _) _
  | .arr _, path, s, s', full, ok => by
    rw [put_of_not_obj cfg path (by simp) s] at ok
    cases ok
    exact root_stage (leaf_ne_group _ _) _

theorem root_putFields : ∀ (fs : List (String × Json)) {path : String} {s s' : Scope}, path ≠ "" →
    putFields cfg path fs s = .ok s' → (s'.merged db).get? (group "") = (s.merged db).get? (group "")
  | [], path, s, s', _, ok => by
    cases ok
    rfl
  | (k, v) :: rest, path, s, s', full, ok => by
    rw [putFields_cons] at ok
    obtain ⟨_, -, ok⟩ := bind_eq_ok.1 ok
    obtain ⟨s₁, first, ok⟩ := bind_eq_ok.1 ok
    rw [root_putFields rest full ok, root_put v (join_ne_empty full k) first]
end

/-- Making the groups above a path stages groups below the root only, when no part of the
path is empty. -/
theorem root_parents : ∀ (segs : List String) (acc : String × Scope) {r : String × Scope},
    (∀ seg ∈ segs, seg ≠ "") → segs.foldlM (parentStep db) acc = .ok r →
      (r.2.merged db).get? (group "") = (acc.2.merged db).get? (group "")
  | [], acc, r, _, ok => by
    cases ok
    rfl
  | seg :: rest, acc, r, named, ok => by
    rw [List.foldlM_cons] at ok
    obtain ⟨next, step, ok⟩ := bind_eq_ok.1 ok
    have kept : (next.2.merged db).get? (group "") = (acc.2.merged db).get? (group "") := by
      have current : join acc.1 seg ≠ "" := by
        unfold join
        split
        · exact named seg List.mem_cons_self
        · simp
      simp only [parentStep] at step
      split at step
      · cases step
      · split at step <;> cases step
        · rfl
        · exact root_stage (group_ne_root current) _
    rw [root_parents rest next (fun x mem => named x (List.mem_cons_of_mem _ mem)) ok, kept]

theorem parts_of_normalize {p n : String} (normal : normalize p = .ok n) (full : n ≠ "") :
    ∀ seg ∈ parts n, seg ≠ "" := by
  obtain ⟨valid, rfl⟩ := normalize_eq_ok.1 normal
  have named : nonEmptyParts p ≠ [] := fun none => full (by rw [none, ofSegments_nil])
  rw [parts_ofSegments valid named]
  exact fun seg mem => (valid seg mem).1

/-- A write below the root, in a scope on the whole record, keeps the root's tags. -/
theorem root_write {s s' : Scope} (base : s.base = "") {p n : String} (normal : normalize p = .ok n)
    (full : n ≠ "") (v : Json) (ok : s.write cfg db p v = .ok s') :
    (s'.merged db).get? (group "") = (s.merged db).get? (group "") := by
  have absolute : s.absolute p = .ok n := by simp [absolute, normal, base, bind, Except.bind, pure, Except.pure]
  have notRoot : n.isEmpty = false := by simpa using full
  simp only [Scope.write, absolute, notRoot, bind, Except.bind, Bool.false_eq_true, if_false] at ok
  cases parents : ensureParents db s n with
  | error e => simp [parents] at ok
  | ok s₁ =>
    simp only [parents] at ok
    rw [root_put cfg v full ok, root_removeSubtree s₁ full]
    rw [ensureParents_eq] at parents
    obtain ⟨r, loop, done⟩ := bind_eq_ok.1 parents
    cases done
    exact root_parents _ _ (fun seg mem => parts_of_normalize normal full seg (List.dropLast_subset _ mem)) loop

end Scope

namespace RecordTree

open Json

theorem write_below {t v : Json} {q : List String} (ne : q ≠ []) (free : t.valueAbove q = none)
    (good : v.firstBadName = none) : RecordTree.write t q v = .ok (t.setAt q v) := by
  simp [RecordTree.write, ne, free, good]

theorem write_bad {t v : Json} {q : List String} (ne : q ≠ []) (free : t.valueAbove q = none) {k : String}
    (bad : v.firstBadName = some k) : RecordTree.write t q v = .error (segmentError k) := by
  simp [RecordTree.write, ne, free, bad]

theorem apply_write {p : String} {q : List String} (normal : normalize p = .ok (ofSegments q)) (valid : Valid q)
    (v t : Json) : (ScopedCall.write p v).apply [] t = RecordTree.write t q v := by
  simp [ScopedCall.apply, resolve, normal, segments_ofSegments valid, bind, Except.bind, pure, Except.pure]

end RecordTree

namespace Record

open Json RecordTree Layout

variable {r r' : Record} {t : Json}

theorem checkFormat_congr (path : r'.path = r.path) (root : r'.pairs.get? (RecordKey.group "") = r.pairs.get? (RecordKey.group "")) :
    r'.checkFormat = r.checkFormat := by
  have empty : normalize "" = .ok "" := normalize_ofSegments valid_nil
  simp only [checkFormat, rootMeta, groupMeta, empty, ok_bind, path, root]

theorem root_write {p n : String} (normal : normalize p = .ok n) (full : n ≠ "") (v : Json) (ok : r.write p v = .ok r') :
    r'.pairs.get? (RecordKey.group "") = r.pairs.get? (RecordKey.group "") := by
  rw [write_eq] at ok
  obtain ⟨s, written, done⟩ := Scope.bind_eq_ok.1 ok
  cases done
  exact Scope.root_write r.config rfl normal full v written

/-- The calls that the writes of a scope on the whole record make. -/
theorem withScoped_writes (r : Record) (ws : List (String × Json)) :
    r.withScoped (fun s => do
      let s ← ws.foldlM (fun s kv => s.write r.config r.pairs kv.1 kv.2) s
      pure (s, ())) = (fun r' => (r', ())) <$> (RecordCall.inScope "" (ws.map fun kv => .write kv.1 kv.2)).run r := by
  simp only [withScoped, RecordCall.run, scope_root, ok_bind, List.foldlM_map, ScopedCall.run]
  cases ws.foldlM (fun (s : Scope) (kv : String × Json) => s.write r.config r.pairs kv.1 kv.2) ({ base := "" } : Scope) <;>
    rfl

/-- Writes below the root, in a scope on the whole record, keep the root's tags. -/
theorem root_writes (r : Record) : ∀ (ws : List (String × Json)) {s s' : Scope}, s.base = "" →
    (∀ kv ∈ ws, ∃ n, normalize kv.1 = .ok n ∧ n ≠ "") →
    ws.foldlM (fun s kv => s.write r.config r.pairs kv.1 kv.2) s = .ok s' →
      (s'.merged r.pairs).get? (RecordKey.group "") = (s.merged r.pairs).get? (RecordKey.group "")
  | [], s, s', _, _, ok => by
    cases ok
    rfl
  | (p, v) :: rest, s, s', base, named, ok => by
    rw [List.foldlM_cons] at ok
    obtain ⟨s₁, first, ok⟩ := Scope.bind_eq_ok.1 ok
    obtain ⟨n, normal, full⟩ := named (p, v) List.mem_cons_self
    have base₁ : s₁.base = "" :=
      (ScopedCall.base_run (show (ScopedCall.write p v).run r s = .ok s₁ from first)).trans base
    rw [root_writes r rest base₁ (fun kv mem => named kv (List.mem_cons_of_mem _ mem)) ok,
      Scope.root_write r.config base normal full v first]

/-- Writes in a scope on the whole record run as the same writes on the tree it holds: both
fail with the same error, or the record holds the new tree. -/
theorem writes_holds (holds : Holds t r) (ws : List (String × Json)) (sorted : ∀ kv ∈ ws, kv.2.Sorted) :
    match ws.foldlM (fun t kv => (ScopedCall.write kv.1 kv.2).apply [] t) t with
    | .ok t' => ∃ r', r.withScoped (fun s => do
          let s ← ws.foldlM (fun s kv => s.write r.config r.pairs kv.1 kv.2) s
          pure (s, ())) = .ok (r', ()) ∧ Holds t' r' ∧ r'.path = r.path ∧ r'.config = r.config
    | .error e => r.withScoped (fun s => do
          let s ← ws.foldlM (fun s kv => s.write r.config r.pairs kv.1 kv.2) s
          pure (s, ())) = .error e := by
  have agree := RecordCall.run_refines holds (.inScope "" (ws.map fun kv => .write kv.1 kv.2))
    (fun c mem => by
      obtain ⟨kv, kept, rfl⟩ := List.mem_map.1 mem
      exact sorted kv kept)
  have empty : normalize "" = .ok "" := normalize_ofSegments valid_nil
  have tree : (RecordCall.inScope "" (ws.map fun kv => .write kv.1 kv.2)).apply t =
      ws.foldlM (fun t kv => (ScopedCall.write kv.1 kv.2).apply [] t) t := by
    simp [RecordCall.apply, empty, ok_bind, segments, List.foldlM_map]
  rw [tree] at agree
  rw [withScoped_writes]
  cases run : (RecordCall.inScope "" (ws.map fun kv => .write kv.1 kv.2)).run r with
  | error e =>
    cases applied : ws.foldlM (fun t kv => (ScopedCall.write kv.1 kv.2).apply [] t) t with
    | error e' =>
      simp only [run, applied, Agree] at agree
      simp [agree]
    | ok t' => simp only [run, applied, Agree] at agree
  | ok r' =>
    cases applied : ws.foldlM (fun t kv => (ScopedCall.write kv.1 kv.2).apply [] t) t with
    | error e' => simp only [run, applied, Agree] at agree
    | ok t' =>
      simp only [run, applied, Agree] at agree
      obtain ⟨holds', path, config⟩ := agree
      exact ⟨r', rfl, holds', path, config⟩

/-- Writes in a scope on the whole record run as the same writes on the tree it holds: both
fail with the same error, or the record holds the new tree and still opens as a job record. -/
theorem writes_spec (holds : Holds t r) (format : r.checkFormat = .ok ()) (ws : List (String × Json))
    (sorted : ∀ kv ∈ ws, kv.2.Sorted) (named : ∀ kv ∈ ws, ∃ n, normalize kv.1 = .ok n ∧ n ≠ "") :
    match ws.foldlM (fun t kv => (ScopedCall.write kv.1 kv.2).apply [] t) t with
    | .ok t' => ∃ r', r.withScoped (fun s => do
          let s ← ws.foldlM (fun s kv => s.write r.config r.pairs kv.1 kv.2) s
          pure (s, ())) = .ok (r', ()) ∧
        Holds t' r' ∧ r'.path = r.path ∧ r'.config = r.config ∧ r'.checkFormat = .ok ()
    | .error e => r.withScoped (fun s => do
          let s ← ws.foldlM (fun s kv => s.write r.config r.pairs kv.1 kv.2) s
          pure (s, ())) = .error e := by
  have written := writes_holds holds ws sorted
  cases applied : ws.foldlM (fun t kv => (ScopedCall.write kv.1 kv.2).apply [] t) t with
  | error e => simpa only [applied] using written
  | ok t' =>
    simp only [applied] at written ⊢
    obtain ⟨r', write, holds', path, config⟩ := written
    -- the scope's writes stay below the root, so the root's tags are as they were
    have root : r'.pairs.get? (RecordKey.group "") = r.pairs.get? (RecordKey.group "") := by
      rw [withScoped_writes] at write
      cases run : (RecordCall.inScope "" (ws.map fun kv => .write kv.1 kv.2)).run r with
      | error e => simp [run] at write
      | ok r₁ =>
        simp only [run, Functor.map, Except.map, Except.ok.injEq, Prod.mk.injEq, and_true] at write
        subst write
        simp only [RecordCall.run, scope_root, ok_bind, List.foldlM_map, ScopedCall.run] at run
        obtain ⟨s, written, done⟩ := Scope.bind_eq_ok.1 run
        cases done
        exact root_writes r ws rfl named written
    exact ⟨r', write, holds', path, config, by rw [checkFormat_congr path root, format]⟩

/-- A write below the root runs as the same write on the tree the record holds: both fail
with the same error, or the record holds the new tree and still opens as a job record. -/
theorem write_spec (holds : Holds t r) (format : r.checkFormat = .ok ()) {p n : String} (normal : normalize p = .ok n)
    (full : n ≠ "") {v : Json} (sorted : v.Sorted) :
    match (ScopedCall.write p v).apply [] t with
    | .ok t' => ∃ r', r.write p v = .ok r' ∧ Holds t' r' ∧ r'.path = r.path ∧ r'.config = r.config ∧
        r'.checkFormat = .ok ()
    | .error e => r.write p v = .error e := by
  have agree := RecordCall.run_refines holds (.write p v) sorted
  simp only [RecordCall.run, RecordCall.apply] at agree
  cases run : r.write p v with
  | error e =>
    cases applied : (ScopedCall.write p v).apply [] t with
    | error e' =>
      simp only [run, applied, Agree] at agree
      simp [agree]
    | ok t' => simp only [run, applied, Agree] at agree
  | ok r' =>
    cases applied : (ScopedCall.write p v).apply [] t with
    | error e' => simp only [run, applied, Agree] at agree
    | ok t' =>
      simp only [run, applied, Agree] at agree
      obtain ⟨holds', path, config⟩ := agree
      have root := root_write normal full v run
      exact ⟨r', rfl, holds', path, config, by rw [checkFormat_congr path root, format]⟩

/-- A value of the tree that is not an object reads back from the record through the leaf
codec. -/
theorem read_value (holds : Holds t r) {p : String} {q : List String} (normal : normalize p = .ok (ofSegments q))
    (valid : Valid q) {v : Json} (found : t.at? q = some v) (notObj : ∀ fs, v ≠ .obj fs) :
    r.read p = Leaf.decode (Leaf.encode r.config v) := by
  have stored : r.pairs.get? (RecordKey.leaf (ofSegments q)) = some (Leaf.encode r.config v) := by
    rw [holds.stores.values q valid]
    simp [entryAt, found, entry_of_not_obj notObj, valueBytes]
  simp only [read, readOpt, normal, ok_bind, RecordTree.readOpt, stored]
  cases Leaf.decode (Leaf.encode r.config v) <;> rfl

theorem full_of_valid {q : List String} (valid : Valid q) (ne : q ≠ []) : ofSegments q ≠ "" :=
  fun empty => ne ((ofSegments_eq_empty_iff valid).1 empty)

theorem readStatus (holds : Holds t r) {s : Status} (found : t.at? statusAt = some (.str s.name)) :
    (do readValue Status.read (← r.read status)) = .ok s := by
  rw [read_value holds normalize_status valid_statusAt found (by simp), Leaf.decode_encode_status, ok_bind,
    Status.readValue_name]

/-- Writing a status where the record holds one. -/
theorem writeStatus (holds : Holds t r) (format : r.checkFormat = .ok ()) {x : Json} (found : t.at? statusAt = some x)
    (s : Status) :
    ∃ r', r.write status (.str s.name) = .ok r' ∧ Holds (t.setAt statusAt (.str s.name)) r' ∧ r'.path = r.path ∧
      r'.config = r.config ∧ r'.checkFormat = .ok () := by
  have spec := write_spec holds format normalize_status (full_of_valid valid_statusAt (by decide))
    (v := .str s.name) (Sorted.of_not_obj (by simp))
  rwa [apply_write normalize_status valid_statusAt, write_below (by decide) (valueAbove_of_at? found) rfl] at spec

/-- Recording a failure and the aborted status together, where the record holds a status. -/
theorem writeFailure (holds : Holds t r) (format : r.checkFormat = .ok ()) {x : Json}
    (found : t.at? statusAt = some x) (f : Failure) :
    ∃ r', r.withScoped (fun s => do
        let s ← [(failure, f.toJson), (status, Json.str Status.aborted.name)].foldlM
          (fun s kv => s.write r.config r.pairs kv.1 kv.2) s
        pure (s, ())) = .ok (r', ()) ∧
      Holds ((t.setAt failureAt f.toJson).setAt statusAt (.str Status.aborted.name)) r' ∧ r'.path = r.path ∧
      r'.config = r.config ∧ r'.checkFormat = .ok () := by
  have spec := writes_spec holds format [(failure, f.toJson), (status, Json.str Status.aborted.name)]
    (fun kv mem => by
      simp only [List.mem_cons, List.not_mem_nil, or_false] at mem
      rcases mem with rfl | rfl
      · exact f.toJson_sorted
      · exact Sorted.of_not_obj (by simp))
    (fun kv mem => by
      simp only [List.mem_cons, List.not_mem_nil, or_false] at mem
      rcases mem with rfl | rfl
      · exact ⟨_, normalize_failure, full_of_valid valid_failureAt (by decide)⟩
      · exact ⟨_, normalize_status, full_of_valid valid_statusAt (by decide)⟩)
  -- the failure goes beside the status, which is then written over
  have kept : (t.setAt failureAt f.toJson).at? statusAt = some x := by
    rw [at?_setAt_of_apart statusAt_apart_failureAt.2 statusAt_apart_failureAt.1, found]
  have tree : [(failure, f.toJson), (status, Json.str Status.aborted.name)].foldlM
      (fun t kv => (ScopedCall.write kv.1 kv.2).apply [] t) t =
        .ok ((t.setAt failureAt f.toJson).setAt statusAt (.str Status.aborted.name)) := by
    simp only [List.foldlM_cons, List.foldlM_nil, apply_write normalize_failure valid_failureAt,
      apply_write normalize_status valid_statusAt, write_below (by decide) (failure_free found) f.toJson_firstBadName,
      ok_bind, write_below (by decide) (valueAbove_of_at? kept)
        (show (Json.str Status.aborted.name).firstBadName = none from rfl)]
    rfl
  rw [tree] at spec
  exact spec

/-- Writing an output: it fails, and nothing is written, when a name in it is not a segment. -/
theorem writeOutput (holds : Holds t r) (format : r.checkFormat = .ok ()) {out : Json} (sorted : out.Sorted) :
    match out.firstBadName with
    | none => ∃ r', r.withScoped (fun s => do
          let s ← [(output, out)].foldlM (fun s kv => s.write r.config r.pairs kv.1 kv.2) s
          pure (s, ())) = .ok (r', ()) ∧
        Holds (t.setAt outputAt out) r' ∧ r'.path = r.path ∧ r'.config = r.config ∧ r'.checkFormat = .ok ()
    | some k => r.withScoped (fun s => do
          let s ← [(output, out)].foldlM (fun s kv => s.write r.config r.pairs kv.1 kv.2) s
          pure (s, ())) = .error (segmentError k) := by
  have spec := writes_spec holds format [(output, out)]
    (fun kv mem => by
      rw [List.mem_singleton.1 mem]
      exact sorted)
    (fun kv mem => by
      rw [List.mem_singleton.1 mem]
      exact ⟨_, normalize_output, full_of_valid valid_outputAt (by decide)⟩)
  have tree : [(output, out)].foldlM (fun t kv => (ScopedCall.write kv.1 kv.2).apply [] t) t =
      RecordTree.write t outputAt out := by
    simp only [List.foldlM_cons, List.foldlM_nil, apply_write normalize_output valid_outputAt, bind_pure]
  rw [tree] at spec
  cases bad : out.firstBadName with
  | none => rwa [write_below (by decide) rfl bad] at spec
  | some k => rwa [write_bad (by decide) rfl bad] at spec

end Record

end JobFlow
