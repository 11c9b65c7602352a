import JobFlow.Proofs.Record.Refinement

/-!
# Reading through a scope

A scope reads the record as it will be once applied, without applying anything.
-/

namespace JobFlow

/-! ### Keys in order -/

theorem prefix_of_between {pre y z : List Char} (lo : ¬ y < pre) (hi : ¬ z < y) (pz : pre <+: z) :
    pre <+: y := by
  induction pre generalizing y z with
  | nil => exact List.nil_prefix
  | cons c pre ih =>
    obtain ⟨z', rfl⟩ : ∃ z', z = c :: z' := by
      obtain ⟨t, rfl⟩ := pz
      exact ⟨pre ++ t, rfl⟩
    cases y with
    | nil => exact absurd (List.nil_lt_cons c pre) lo
    | cons d y =>
      rw [List.cons_lt_cons_iff, not_or, not_and] at lo hi
      have same : d = c := le_antisymm (not_lt.1 hi.1) (not_lt.1 lo.1)
      subst same
      exact List.cons_prefix_cons.2 ⟨rfl, ih (lo.2 rfl) (hi.2 rfl) (List.cons_prefix_cons.1 pz).2⟩

namespace String

theorem startsWith_of_between {pre y z : String} (lo : pre ≤ y) (hi : y ≤ z) (pz : z.startsWith pre) :
    y.startsWith pre := by
  rw [String.startsWith_string_iff] at pz ⊢
  exact prefix_of_between lo hi pz

theorem not_lt_of_startsWith {pre k : String} (starts : k.startsWith pre) : ¬ k < pre := by
  rw [String.startsWith_string_iff] at starts
  obtain ⟨t, same⟩ := starts
  show ¬ k.toList < pre.toList
  rw [← same]
  exact List.le_append_left

end String

/-! ### Scanning from a prefix -/

section Scan

variable {β : Type} {pre : String}

/-- Past a key that is not below the prefix and does not start with it, no later key in
order starts with it. -/
theorem filter_startsWith_eq_nil {x : String × β} {ys : List (String × β)} (above : pre ≤ x.1)
    (outside : ¬ x.1.startsWith pre) (after : ∀ y ∈ ys, x.1 ≤ y.1) :
    ys.filter (·.1.startsWith pre) = [] := by
  rw [List.filter_eq_nil_iff]
  intro y mem starts
  exact outside (String.startsWith_of_between above (after y mem) starts)

theorem takeWhile_startsWith_eq_filter {l : List (String × β)} (sorted : l.Pairwise (fun a b => a.1 ≤ b.1))
    (above : ∀ x ∈ l, pre ≤ x.1) : l.takeWhile (·.1.startsWith pre) = l.filter (·.1.startsWith pre) := by
  induction l with
  | nil => rfl
  | cons x xs ih =>
    obtain ⟨after, sorted⟩ := List.pairwise_cons.1 sorted
    by_cases starts : x.1.startsWith pre
    · simp only [List.takeWhile_cons, List.filter_cons, starts, if_true,
        ih sorted fun y mem => above y (.tail _ mem)]
    · simp only [List.takeWhile_cons, List.filter_cons, starts, Bool.false_eq_true, if_false,
        filter_startsWith_eq_nil (above x (.head _)) starts after]

/-- Scanning a list in key order from a prefix on, while the keys start with it, finds every
entry whose key starts with it. -/
theorem scan_eq_filter {l : List (String × β)} (sorted : l.Pairwise (fun a b => a.1 ≤ b.1)) :
    (l.dropWhile (fun kv => decide (kv.1 < pre))).takeWhile (·.1.startsWith pre) =
      l.filter (·.1.startsWith pre) := by
  induction l with
  | nil => rfl
  | cons x xs ih =>
    obtain ⟨after, sorted⟩ := List.pairwise_cons.1 sorted
    by_cases below : x.1 < pre
    · have outside : ¬ x.1.startsWith pre := fun starts => String.not_lt_of_startsWith starts below
      simp only [List.dropWhile_cons, List.filter_cons, below, decide_true, outside, Bool.false_eq_true,
        if_true, if_false, ih sorted]
    · -- from the first key not below the prefix on, every key is at least the prefix
      have above : pre ≤ x.1 := not_lt.1 below
      simp only [List.dropWhile_cons, below, decide_false, Bool.false_eq_true, if_false]
      refine takeWhile_startsWith_eq_filter (.cons after sorted) fun y mem => ?_
      rcases List.mem_cons.1 mem with rfl | later
      · exact above
      · exact le_trans above (after y later)

end Scan

/-! ### Looking a key up among staged writes -/

section Lookup

variable {β : Type}

theorem lookup_filter_of_forall {p : String × β → Bool} {k : String} (keeps : ∀ v, p (k, v) = true) :
    ∀ l : List (String × β), (l.filter p).lookup k = l.lookup k
  | [] => rfl
  | (k', v) :: rest => by
    by_cases same : k = k'
    · subst same
      rw [List.filter_cons_of_pos (keeps v)]
      simp
    · by_cases kept : p (k', v) = true
      · rw [List.filter_cons_of_pos kept, lookup_cons_ite, lookup_cons_ite, if_neg same, if_neg same,
          lookup_filter_of_forall keeps rest]
      · rw [List.filter_cons_of_neg kept, lookup_cons_ite, if_neg same, lookup_filter_of_forall keeps rest]

theorem lookup_reverse_filter_key (l : List (String × β)) (k : String) :
    l.reverse.lookup k = (l.filter (·.1 == k)).reverse.lookup k := by
  rw [← List.filter_reverse, lookup_filter_of_forall (fun v => by simp)]

theorem filter_key_mergeSort (l : List (String × β)) (k : String) :
    (l.mergeSort (fun a b => decide (a.1 ≤ b.1))).filter (·.1 == k) = l.filter (·.1 == k) := by
  have trans : ∀ a b c : String × β, decide (a.1 ≤ b.1) = true → decide (b.1 ≤ c.1) = true →
      decide (a.1 ≤ c.1) = true := by
    simp only [decide_eq_true_eq]
    exact fun _ _ _ => le_trans
  have total : ∀ a b : String × β, (decide (a.1 ≤ b.1) || decide (b.1 ≤ a.1)) = true := by
    intro a b
    simpa using le_total a.1 b.1
  -- the writes of `k` are all equal in key, so they stay a sublist of the sorted writes
  have alike : (l.filter (·.1 == k)).Pairwise (fun a b => decide (a.1 ≤ b.1) = true) := by
    refine List.pairwise_of_forall_mem_list fun a ma b mb => ?_
    simp only [List.mem_filter, beq_iff_eq] at ma mb
    simp [ma.2, mb.2]
  have kept := (List.sublist_mergeSort trans total alike List.filter_sublist).filter (·.1 == k)
  rw [List.filter_filter] at kept
  simp only [Bool.and_self] at kept
  have sameLength := ((List.mergeSort_perm l (fun a b => decide (a.1 ≤ b.1))).filter (·.1 == k)).length_eq
  exact (kept.eq_of_length sameLength.symm).symm

theorem lookup_reverse_mergeSort (l : List (String × β)) (k : String) :
    (l.mergeSort (fun a b => decide (a.1 ≤ b.1))).reverse.lookup k = l.reverse.lookup k := by
  rw [lookup_reverse_filter_key, filter_key_mergeSort, ← lookup_reverse_filter_key]

end Lookup

/-! ### Sets of keys in increasing order -/

namespace RecordKey

theorem mem_insertSorted {k x : String} : ∀ {ks : List String}, x ∈ insertSorted k ks ↔ x = k ∨ x ∈ ks
  | [] => by simp [insertSorted]
  | k' :: rest => by
    simp only [insertSorted]
    split_ifs with lt same
    · simp
    · subst same
      simp
    · simp only [List.mem_cons, mem_insertSorted]
      tauto

theorem sorted_insertSorted (k : String) : ∀ {ks : List String}, ks.Pairwise (· < ·) →
    (insertSorted k ks).Pairwise (· < ·)
  | [], _ => by simp [insertSorted]
  | k' :: rest, sorted => by
    have above : ∀ x ∈ rest, k' < x := (List.pairwise_cons.1 sorted).1
    simp only [insertSorted]
    split_ifs with lt same
    · refine List.Pairwise.cons (fun x mem => ?_) sorted
      rcases List.mem_cons.1 mem with rfl | later
      · exact lt
      · exact lt_trans lt (above x later)
    · exact sorted
    · have gt : k' < k := lt_of_le_of_ne (not_lt.1 lt) (Ne.symm same)
      refine List.Pairwise.cons (fun x mem => ?_) (sorted_insertSorted k (List.pairwise_cons.1 sorted).2)
      rcases mem_insertSorted.1 mem with rfl | later
      · exact gt
      · exact above x later

end RecordKey

namespace Pairs

theorem sorted_keysWith {ps : Pairs} (sorted : ps.Sorted) (pre : String) : (ps.keysWith pre).Pairwise (· < ·) :=
  List.pairwise_map.2 (sorted.sublist List.filter_sublist)

end Pairs

namespace Scope

/-- One staged write applied to keys held in increasing order: a write adds its key, a
removal takes it out. -/
def keyStep (keys : List String) (kv : String × Option ByteArray) : List String :=
  match kv.2 with
  | some _ => RecordKey.insertSorted kv.1 keys
  | none => keys.erase kv.1

theorem keysWithPrefix_eq_foldl (db : Pairs) (s : Scope) (pre : String) :
    s.keysWithPrefix db pre =
      ((s.inKeyOrder.dropWhile (fun kv => decide (kv.1 < pre))).takeWhile (·.1.startsWith pre)).foldl keyStep
        (db.keysWith pre) := rfl

theorem sorted_keyStep {keys : List String} (sorted : keys.Pairwise (· < ·)) (kv : String × Option ByteArray) :
    (keyStep keys kv).Pairwise (· < ·) := by
  obtain ⟨k, _ | _⟩ := kv
  · exact sorted.sublist (List.erase_sublist)
  · exact RecordKey.sorted_insertSorted k sorted

theorem sorted_foldl_keyStep (l : List (String × Option ByteArray)) {keys : List String}
    (sorted : keys.Pairwise (· < ·)) : (l.foldl keyStep keys).Pairwise (· < ·) := by
  induction l generalizing keys with
  | nil => exact sorted
  | cons kv rest ih => exact ih (sorted_keyStep sorted kv)

/-- After staged writes, a key is held as its last write says, and as before when it has
none. -/
theorem mem_foldl_keyStep (l : List (String × Option ByteArray)) {keys : List String}
    (sorted : keys.Pairwise (· < ·)) (k : String) :
    k ∈ l.foldl keyStep keys ↔ match l.reverse.lookup k with
      | some v => v.isSome = true
      | none => k ∈ keys := by
  induction l using List.reverseRecOn with
  | nil => rfl
  | append_singleton init kv ih =>
    obtain ⟨k', v⟩ := kv
    have held := sorted_foldl_keyStep init sorted
    rw [List.foldl_append, List.foldl_cons, List.foldl_nil, List.reverse_append, List.reverse_singleton,
      List.singleton_append, lookup_cons_ite]
    by_cases same : k = k'
    · subst same
      cases v with
      | some _ => simp [keyStep, RecordKey.mem_insertSorted]
      | none => simpa [keyStep] using held.nodup.not_mem_erase
    · rw [if_neg same, ← ih]
      cases v with
      | some _ => simp [keyStep, RecordKey.mem_insertSorted, same]
      | none => exact List.mem_erase_of_ne same

theorem inKeyOrder_sorted (s : Scope) : s.inKeyOrder.Pairwise (fun a b => a.1 ≤ b.1) := by
  have sorted := List.pairwise_mergeSort (fun a b c (ab : decide (a.1 ≤ b.1) = true) (bc : decide (b.1 ≤ c.1) = true) =>
      decide_eq_true (le_trans (of_decide_eq_true ab) (of_decide_eq_true bc)))
    (fun a b => by simpa using le_total a.1 b.1) s.pending
  exact sorted.imp of_decide_eq_true

/-- The scan below a prefix meets the last staged write of every key with the prefix, and no
write of any other key. -/
theorem lookup_scan (s : Scope) (pre k : String) :
    (((s.inKeyOrder.dropWhile (fun kv => decide (kv.1 < pre))).takeWhile (·.1.startsWith pre)).reverse.lookup k) =
      if k.startsWith pre then s.pending.reverse.lookup k else none := by
  rw [scan_eq_filter (inKeyOrder_sorted s), ← List.filter_reverse]
  split_ifs with starts
  · rw [lookup_filter_of_forall (fun _ => starts), inKeyOrder, lookup_reverse_mergeSort]
  · rw [List.lookup_eq_none_iff]
    intro kv mem
    have kvStarts : kv.1.startsWith pre = true := (List.mem_filter.1 mem).2
    simpa using fun same : k = kv.1 => starts (same ▸ kvStarts)

variable {db : Pairs}

theorem get_eq (s : Scope) (k : String) : s.get db k = (s.merged db).get? k := by
  rw [get?_merged, get]
  cases s.pending.reverse.lookup k <;> rfl

theorem contains_eq (s : Scope) (k : String) : s.contains db k = (s.merged db).contains k := by
  rw [contains, Pairs.contains, get_eq]

theorem keysWithPrefix_eq (sorted : db.Sorted) (s : Scope) (pre : String) :
    s.keysWithPrefix db pre = (s.merged db).keysWith pre := by
  have start := Pairs.sorted_keysWith sorted pre
  refine List.Pairwise.eq_of_mem_iff (sorted_foldl_keyStep _ start)
    (Pairs.sorted_keysWith (sorted_merged s sorted) pre) fun k => ?_
  rw [keysWithPrefix_eq_foldl, mem_foldl_keyStep _ start, lookup_scan, Pairs.mem_keysWith, Pairs.mem_keysWith,
    get?_merged, ← String.startsWith_string_iff]
  by_cases starts : k.startsWith pre
  · cases s.pending.reverse.lookup k <;> simp [starts]
  · simp [starts]

/-- Folds whose steps agree on every member agree. -/
theorem foldlM_congr_mem {α β : Type} {f g : β → α → Outcome β} :
    ∀ {l : List α}, (∀ a ∈ l, ∀ b, f b a = g b a) → ∀ init, l.foldlM f init = l.foldlM g init
  | [], _, _ => rfl
  | a :: rest, agree, init => by
    rw [List.foldlM_cons, List.foldlM_cons, agree a (.head _) init]
    cases g init a with
    | error e => rfl
    | ok b => exact foldlM_congr_mem (fun x mem => agree x (.tail _ mem)) b

theorem readOpt_eq (sorted : db.Sorted) (s : Scope) (p : String) :
    s.readOpt db p = (do RecordTree.readOpt (s.merged db) (← s.absolute p)) := by
  refine congrArg (s.absolute p >>= ·) (funext fun path => ?_)
  rw [RecordTree.readOpt, get_eq, contains_eq]
  cases (s.merged db).get? (RecordKey.leaf path) with
  | some bytes => rfl
  | none =>
    simp only
    split
    · simp only [RecordTree.subtree, keysWithPrefix_eq sorted, map_bind, map_pure]
      refine congrArg (_ >>= ·) (funext fun root => ?_)
      rw [Pairs.keysWith, List.foldlM_map]
      -- each value below the path is read from the stored pair the database holds for its key
      refine congrArg (· >>= _) (foldlM_congr_mem (fun kv mem root => ?_) root)
      have stored : s.get db kv.1 = some kv.2 := by
        rw [get_eq]
        exact Pairs.get?_of_mem (sorted_merged s sorted) (List.mem_filter.1 mem).1
      simp only [stored]
    · rfl

/-! ### Calls keep the scope's group -/

theorem bind_eq_ok {α β : Type} {x : Outcome α} {f : α → Outcome β} {b : β} :
    x >>= f = .ok b ↔ ∃ a, x = .ok a ∧ f a = .ok b := by
  cases x <;> simp [bind, Except.bind]

mutual
theorem base_put (cfg : StorageConfig) : ∀ (v : Json) (path : String) {s s' : Scope},
    put cfg path v s = .ok s' → s'.base = s.base
  | .obj fs, path, s, s', ok => by
    obtain ⟨tags, run⟩ := put_obj cfg path fs s
    rw [run] at ok
    exact (base_putFields cfg fs path ok).trans (base_stage s _ _)
  | .null, path, s, s', ok => by
    rw [put_of_not_obj cfg path (by simp) s] at ok
    cases ok
    rfl
  | .bool _, path, s, s', ok => by
    rw [put_of_not_obj cfg path (by simp) s] at ok
    cases ok
    rfl
  | .num _, path, s, s', ok => by
    rw [put_of_not_obj cfg path (by simp) s] at ok
    cases ok
    rfl
  | .str _, path, s, s', ok => by
    rw [put_of_not_obj cfg path (by simp) s] at ok
    cases ok
    rfl
  | .arr _, path, s, s', ok => by
    rw [put_of_not_obj cfg path (by simp) s] at ok
    cases ok
    rfl

theorem base_putFields (cfg : StorageConfig) : ∀ (fs : List (String × Json)) (path : String) {s s' : Scope},
    putFields cfg path fs s = .ok s' → s'.base = s.base
  | [], path, s, s', ok => by
    cases ok
    rfl
  | (k, v) :: rest, path, s, s', ok => by
    rw [putFields_cons] at ok
    obtain ⟨_, -, ok⟩ := bind_eq_ok.1 ok
    obtain ⟨s₁, first, ok⟩ := bind_eq_ok.1 ok
    exact (base_putFields cfg rest path ok).trans (base_put cfg v _ first)
end

theorem base_parents : ∀ (segs : List String) (acc : String × Scope) {r : String × Scope},
    segs.foldlM (parentStep db) acc = .ok r → r.2.base = acc.2.base
  | [], acc, r, ok => by
    cases ok
    rfl
  | seg :: rest, acc, r, ok => by
    rw [List.foldlM_cons] at ok
    obtain ⟨next, step, ok⟩ := bind_eq_ok.1 ok
    have kept : next.2.base = acc.2.base := by
      simp only [parentStep] at step
      split at step
      · cases step
      · split at step <;> cases step <;> rfl
    exact (base_parents rest next ok).trans kept

theorem base_ensureParents {s s' : Scope} {path : String} (ok : ensureParents db s path = .ok s') :
    s'.base = s.base := by
  rw [ensureParents_eq] at ok
  obtain ⟨r, loop, ok⟩ := bind_eq_ok.1 ok
  cases ok
  exact base_parents _ _ loop

end Scope

namespace RecordTree.ScopedCall

/-- A call in a scope keeps the scope's group. -/
theorem base_run {r : Record} {s s' : Scope} : ∀ {c : ScopedCall}, c.run r s = .ok s' → s'.base = s.base
  | .write p v, ok => by
    obtain ⟨path, -, ok⟩ := Scope.bind_eq_ok.1 ok
    split at ok
    · split at ok
      · exact (Scope.base_putFields _ _ _ ok).trans (Scope.base_clearChildren s "")
      · cases ok
    · obtain ⟨s₁, parents, ok⟩ := Scope.bind_eq_ok.1 ok
      rw [Scope.base_put _ _ _ ok, Scope.base_removeSubtree, Scope.base_ensureParents parents]
  | .createGroup p tags, ok => by
    obtain ⟨path, -, ok⟩ := Scope.bind_eq_ok.1 ok
    simp only at ok
    split at ok
    · cases ok
    obtain ⟨s₁, parents, ok⟩ := Scope.bind_eq_ok.1 ok
    cases ok
    rw [Scope.base_stage, Scope.base_removeSubtree, Scope.base_ensureParents parents]
  | .remove p, ok => by
    obtain ⟨path, -, ok⟩ := Scope.bind_eq_ok.1 ok
    split at ok <;> cases ok
    · exact Scope.base_clearChildren s ""
    · exact Scope.base_removeSubtree s path

theorem base_foldlM_run {r : Record} : ∀ (body : List ScopedCall) {s s' : Scope},
    body.foldlM (run r) s = .ok s' → s'.base = s.base
  | [], s, s', ok => by
    cases ok
    rfl
  | c :: rest, s, s', ok => by
    rw [List.foldlM_cons] at ok
    obtain ⟨s₁, first, ok⟩ := Scope.bind_eq_ok.1 ok
    exact (base_foldlM_run rest ok).trans (base_run first)

end RecordTree.ScopedCall

namespace Record

open RecordTree

/-- A scope's reads agree with the record it commits. -/
theorem scope_reads_committed {r : Record} (sorted : r.pairs.Sorted) {g : String} {s₀ s : Scope}
    (opened : r.scope g = .ok s₀) (body : List ScopedCall) (ran : body.foldlM (ScopedCall.run r) s₀ = .ok s) :
    (∀ p, s.readOpt r.pairs p = (r.commit s).readOpt (RecordPath.join g p)) ∧
      (∀ k, (r.commit s).pairs.get? k = s.get r.pairs k) ∧ (r.commit s).pairs.Sorted := by
  -- the calls keep the group the scope was opened on
  have base : RecordPath.normalize g = .ok s.base := by
    obtain ⟨b, normal, opened⟩ := Scope.bind_eq_ok.1 opened
    cases opened
    rw [ScopedCall.base_foldlM_run body ran, normal]
  refine ⟨fun p => ?_, fun k => (Scope.get_eq s k).symm, Scope.sorted_merged s sorted⟩
  rw [Scope.readOpt_eq sorted, Record.readOpt, commit, RecordPath.normalize_join base]
  rfl

theorem scope_reads_committed_after_remove_and_write :
    Pairs.Sorted [("g", .empty), ("vx", Leaf.encode {} (.str "old"))] ∧
    (⟨"rec", [("g", .empty), ("vx", Leaf.encode {} (.str "old"))], {}⟩ : Record).scope "" = .ok { base := "" } ∧
    [ScopedCall.remove "x", .write "y" (.bool true)].foldlM
        (ScopedCall.run ⟨"rec", [("g", .empty), ("vx", Leaf.encode {} (.str "old"))], {}⟩) { base := "" } =
      .ok { base := "", pending := [("vx", none), ("vy", some (Leaf.encode {} (.bool true)))] } ∧
    (∀ p, Scope.readOpt [("g", .empty), ("vx", Leaf.encode {} (.str "old"))]
        { base := "", pending := [("vx", none), ("vy", some (Leaf.encode {} (.bool true)))] } p =
      (Record.commit ⟨"rec", [("g", .empty), ("vx", Leaf.encode {} (.str "old"))], {}⟩
        { base := "", pending := [("vx", none), ("vy", some (Leaf.encode {} (.bool true)))] }).readOpt
          (RecordPath.join "" p)) ∧
    (∀ k, (Record.commit ⟨"rec", [("g", .empty), ("vx", Leaf.encode {} (.str "old"))], {}⟩
        { base := "", pending := [("vx", none), ("vy", some (Leaf.encode {} (.bool true)))] }).pairs.get? k =
      Scope.get [("g", .empty), ("vx", Leaf.encode {} (.str "old"))]
        { base := "", pending := [("vx", none), ("vy", some (Leaf.encode {} (.bool true)))] } k) ∧
    (Record.commit ⟨"rec", [("g", .empty), ("vx", Leaf.encode {} (.str "old"))], {}⟩
        { base := "", pending := [("vx", none), ("vy", some (Leaf.encode {} (.bool true)))] }).pairs.Sorted := by
  have sorted : Pairs.Sorted [("g", .empty), ("vx", Leaf.encode {} (.str "old"))] := by
    refine List.Pairwise.cons (fun kv mem => ?_) (List.pairwise_singleton _ _)
    rw [List.mem_singleton.1 mem]
    decide
  have opened : (⟨"rec", [("g", .empty), ("vx", Leaf.encode {} (.str "old"))], {}⟩ : Record).scope "" =
      .ok { base := "" } := rfl
  have ran : [ScopedCall.remove "x", .write "y" (.bool true)].foldlM
        (ScopedCall.run ⟨"rec", [("g", .empty), ("vx", Leaf.encode {} (.str "old"))], {}⟩) { base := "" } =
      .ok { base := "", pending := [("vx", none), ("vy", some (Leaf.encode {} (.bool true)))] } := by
    have x := RecordPath.normalize_segment (show RecordPath.Segment "x" by decide)
    have y := RecordPath.normalize_segment (show RecordPath.Segment "y" by decide)
    have partsY : RecordPath.parts "y" = ["y"] := rfl
    simp +decide [bind, Except.bind, pure, Except.pure, ScopedCall.run, Scope.remove, Scope.write, Scope.absolute,
      x, y, partsY, Scope.removeSubtree, Scope.clearChildren, Scope.ensureParents, Scope.put, Scope.stage,
      Scope.merged, Pairs.erase, Pairs.keysWith, Pairs.contains, Pairs.get?, RecordKey.leaf, RecordKey.group,
      RecordKey.childPrefix]
  exact ⟨sorted, opened, ran, scope_reads_committed sorted opened _ ran⟩

end Record

end JobFlow
