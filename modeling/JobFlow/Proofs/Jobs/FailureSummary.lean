import JobFlow.Failure

/-!
# The summary of a failure

The index keeps a failure's reason and message cut to at most 200 bytes.
-/

namespace JobFlow.Failure

/-! ### Bytes of lists of characters -/

theorem utf8ByteSize_ofList_append (l m : List Char) :
    (String.ofList (l ++ m)).utf8ByteSize = (String.ofList l).utf8ByteSize + (String.ofList m).utf8ByteSize := by
  rw [String.ofList_append,String.utf8ByteSize_append]

@[simp] theorem utf8ByteSize_ofList_cons (c : Char) (l : List Char) :
    (String.ofList (c :: l)).utf8ByteSize = c.utf8Size + (String.ofList l).utf8ByteSize := by
  rw [String.ofList_cons,String.utf8ByteSize_append,String.utf8ByteSize_singleton]

theorem utf8ByteSize_take_mono (l : List Char) {i j : Nat} (le : i ≤ j) :
    (String.ofList (l.take i)).utf8ByteSize ≤ (String.ofList (l.take j)).utf8ByteSize := by
  have split : l.take j = l.take i ++ (l.take j).drop i := by
    conv => lhs; rw [← List.take_append_drop i (l.take j)]
    rw [List.take_take,Nat.min_eq_left le]
  rw [split,utf8ByteSize_ofList_append]
  omega

theorem utf8ByteSize_take_succ_le (l : List Char) (i : Nat) :
    (String.ofList (l.take (i + 1))).utf8ByteSize ≤ (String.ofList (l.take i)).utf8ByteSize + 4 := by
  rw [List.take_add_one,utf8ByteSize_ofList_append]
  cases l[i]? with
  | none => simp
  | some c => simpa using c.utf8Size_le_four

theorem utf8ByteSize_take_length (l : List Char) {k : Nat} (le : l.length ≤ k) :
    (String.ofList (l.take k)).utf8ByteSize = (String.ofList l).utf8ByteSize := by
  rw [List.take_of_length_le le]

/-! ### Cutting at a number of bytes -/

/-- The cut keeps characters while they fit: what it keeps fits, and one character more would
not. -/
theorem cutBytes_go (n : Nat) : ∀ (l acc : List Char) (used : Nat), used ≤ n →
    ∃ k ≤ l.length, cutBytes.go n used acc l = acc.reverse ++ l.take k ∧
      used + (String.ofList (l.take k)).utf8ByteSize ≤ n ∧
      (k < l.length → n < used + (String.ofList (l.take (k + 1))).utf8ByteSize)
  | [], acc, used, within => ⟨0,Nat.le_refl _,by simp [cutBytes.go],by simpa using within,by simp⟩
  | c :: rest, acc, used, within => by
    by_cases fits : used + c.utf8Size ≤ n
    · obtain ⟨k,kle,kept,small,full⟩ := cutBytes_go n rest (c :: acc) (used + c.utf8Size) fits
      refine ⟨k + 1,by simpa using kle,by simp [cutBytes.go,fits,kept],by simp; omega,fun more => ?_⟩
      have next := full (by simpa using more)
      simp only [List.take_succ_cons,utf8ByteSize_ofList_cons]
      omega
    · refine ⟨0,by simp,by simp [cutBytes.go,fits],by simpa using within,fun _ => ?_⟩
      simp only [List.take_succ_cons,List.take_zero,utf8ByteSize_ofList_cons]
      omega

theorem cutBytes_boundary {s : String} {b : Nat} (boundary : (String.Pos.Raw.mk b).IsValid s) :
    ∃ k, (cutBytes s b).toList = s.toList.take k ∧ (cutBytes s b).utf8ByteSize = b := by
  obtain ⟨k,kle,kept,small,full⟩ := cutBytes_go b s.toList [] 0 (Nat.zero_le b)
  obtain ⟨i,atI⟩ := String.Pos.Raw.isValid_iff_exists_take_toList.1 boundary
  have chars : (cutBytes s b).toList = s.toList.take k := by simp [cutBytes,kept]
  refine ⟨k,chars,?_⟩
  rw [← String.ofList_toList (s := cutBytes s b),chars]
  simp only at atI
  -- the boundary lies no further than the characters kept: one more would pass it
  have reached : b ≤ (String.ofList (s.toList.take k)).utf8ByteSize := by
    by_cases more : k < s.toList.length
    · have past := full more
      by_cases before : i ≤ k
      · have := utf8ByteSize_take_mono s.toList before
        omega
      · have := utf8ByteSize_take_mono s.toList (show k + 1 ≤ i by omega)
        omega
    · have whole := utf8ByteSize_take_length s.toList (Nat.le_of_not_lt more)
      have upTo := utf8ByteSize_take_mono s.toList (Nat.le_max_left i s.toList.length)
      rw [utf8ByteSize_take_length s.toList (Nat.le_max_right i s.toList.length)] at upTo
      omega
  omega

/-! ### The search for a boundary -/

theorem boundaryAtOrBelow_le (s : String) (cut : Nat) : boundaryAtOrBelow s cut ≤ cut := by
  induction cut with
  | zero => exact Nat.le_refl _
  | succ cut ih =>
    rw [boundaryAtOrBelow]
    split <;> omega

theorem boundaryAtOrBelow_isValid (s : String) (cut : Nat) : (String.Pos.Raw.mk (boundaryAtOrBelow s cut)).IsValid s := by
  induction cut with
  | zero => exact String.Pos.Raw.isValid_zero
  | succ cut ih =>
    rw [boundaryAtOrBelow]
    split
    · exact String.Pos.Raw.isValid_eq_true_iff.1 ‹_›
    · exact ih

/-- The search passes no boundary: every boundary at or below the start of the search is at or
below where it stops. -/
theorem le_boundaryAtOrBelow {s : String} {p : String.Pos.Raw} (boundary : p.IsValid s) :
    ∀ {cut : Nat}, p.byteIdx ≤ cut → p.byteIdx ≤ boundaryAtOrBelow s cut
  | 0, le => le
  | cut + 1, le => by
    rw [boundaryAtOrBelow]
    split
    · exact le
    · next notHere =>
      have below : p.byteIdx ≤ cut := by
        by_cases here : p.byteIdx = cut + 1
        · have same : p = ⟨cut + 1⟩ := String.Pos.Raw.ext here
          exact absurd (String.Pos.Raw.isValid_eq_true_iff.2 (same ▸ boundary)) notHere
        · omega
      exact le_boundaryAtOrBelow boundary below

theorem boundaryAtOrBelow_ge {s : String} {n : Nat} (long : n < s.utf8ByteSize) :
    n - 3 ≤ boundaryAtOrBelow s n := by
  obtain ⟨k,kle,kept,small,full⟩ := cutBytes_go n s.toList [] 0 (Nat.zero_le n)
  have more : k < s.toList.length := by
    by_cases whole : s.toList.length ≤ k
    · rw [utf8ByteSize_take_length s.toList whole] at small
      simp at small
      omega
    · omega
  have boundary : (String.Pos.Raw.mk (String.ofList (s.toList.take k)).utf8ByteSize).IsValid s :=
    String.Pos.Raw.isValid_iff_exists_take_toList.2 ⟨k,rfl⟩
  have found : (String.ofList (s.toList.take k)).utf8ByteSize ≤ boundaryAtOrBelow s n :=
    le_boundaryAtOrBelow boundary (by simpa using small)
  have step := utf8ByteSize_take_succ_le s.toList k
  have next := full more
  omega

/-! ### The summary -/

/-- The summary is the longest prefix of the failure's text, byte by byte, that ends at a
character boundary and has at most 200 bytes: the whole text when it fits, and otherwise at
least 197 bytes of it. -/
theorem summary_longest_boundary_prefix (f : Failure) :
    (String.Pos.Raw.mk f.summary.utf8ByteSize).IsValid f.text ∧
    f.summary.toByteArray = f.text.toByteArray.extract 0 f.summary.utf8ByteSize ∧
    f.summary.utf8ByteSize ≤ 200 ∧
    (∀ p : String.Pos.Raw, p.IsValid f.text → p.byteIdx ≤ 200 → p.byteIdx ≤ f.summary.utf8ByteSize) ∧
    (f.text.utf8ByteSize ≤ 200 → f.summary = f.text) ∧
    (200 < f.text.utf8ByteSize → 197 ≤ f.summary.utf8ByteSize) := by
  by_cases long : 200 < f.text.utf8ByteSize
  · have cut : f.summary = cutBytes f.text (boundaryAtOrBelow f.text 200) := by simp [summary,long]
    obtain ⟨k,chars,size⟩ := cutBytes_boundary (boundaryAtOrBelow_isValid f.text 200)
    have whole : f.text = f.summary ++ String.ofList (f.text.toList.drop k) := by
      rw [cut,← String.toList_inj,String.toList_append,chars,String.toList_ofList,List.take_append_drop]
    refine ⟨by rw [cut,size]; exact boundaryAtOrBelow_isValid f.text 200,?_,?_,fun p boundary le => ?_,
      fun short => absurd short (by omega),fun _ => ?_⟩
    · conv => rhs; rw [whole]
      rw [String.toByteArray_append,ByteArray.extract_append_eq_left String.size_toByteArray.symm]
    · rw [cut,size]
      exact boundaryAtOrBelow_le f.text 200
    · rw [cut,size]
      exact le_boundaryAtOrBelow boundary le
    · rw [cut,size]
      exact boundaryAtOrBelow_ge long
  · have same : f.summary = f.text := by simp [summary,long]
    refine ⟨?_,?_,?_,fun p boundary _ => ?_,fun _ => same,fun long' => absurd long' long⟩
    · rw [same]
      exact String.Pos.Raw.isValid_rawEndPos
    · rw [same,← String.size_toByteArray,ByteArray.extract_zero_size]
    · rw [same]
      omega
    · rw [same]
      exact boundary.le_utf8ByteSize

end JobFlow.Failure
