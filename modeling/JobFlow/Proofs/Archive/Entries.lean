import Mathlib
import JobFlow.Jobs.Archive
import JobFlow.Proofs.Zstd.RawFrames
import JobFlow.Proofs.Disk.Paths

/-!
# The entries of a packed stream read back

A packed stream is the magic and then one entry per file: the length of the name in four
little-endian bytes, the name, the length of the content in eight, and the content
(`Archive.entry`).
-/

namespace JobFlow

namespace Zstd.Stream

/-- A read that asks for at most what is left of a part `Y` hands out a first piece of it, and
something. -/
theorem Yields.read_part {st : Stream} {Y R : List UInt8} (y : Yields st (Y ++ R)) {n : Nat} (ask : 0 < n)
    (within : n ≤ Y.length) :
    ∃ b st', st.read n = .ok (b, st') ∧ 0 < b.size ∧ b.size ≤ n ∧ b.data.toList = Y.take b.size ∧
      Yields st' (Y.drop b.size ++ R) := by
  obtain ⟨b, st', R', read, split, le, some, y'⟩ := y.read ask
  have full : Y ++ R ≠ [] := by
    intro empty
    rw [List.append_eq_nil_iff] at empty
    simp [empty.1] at within
    omega
  have pos := some full
  have short : b.data.toList.length ≤ Y.length := by simp; omega
  have first : Y.take b.size = b.data.toList := by
    have := congrArg (List.take b.data.toList.length) split
    rwa [List.take_append_of_le_length short, List.take_left] at this
  have rest : Y.drop b.size ++ R = R' := by
    have := congrArg (List.drop b.data.toList.length) split
    rwa [List.drop_append_of_le_length short, List.drop_left] at this
  exact ⟨b, st', read, pos, le, first.symm, rest ▸ y'⟩

theorem Yields.read_end {st : Stream} (y : Yields st []) {n : Nat} (ask : 0 < n) :
    ∃ b st', st.read n = .ok (b, st') ∧ b.size = 0 ∧ Yields st' [] := by
  obtain ⟨b, st', R', read, split, -, -, y'⟩ := y.read ask
  obtain ⟨empty, rfl⟩ := List.append_eq_nil_iff.1 split.symm
  have none : b.data.toList.length = 0 := by rw [empty]; rfl
  exact ⟨b, st', read, by simpa using none, y'⟩

/-- One read of a loop that fills a buffer with the first bytes of `X`: the buffer grows by
what was read and stays a prefix of `X`, and the stream goes on with the rest. -/
theorem Yields.read_prefix {r : Stream} {X R : List UInt8} {acc : ByteArray} (y : Yields r (X.drop acc.size ++ R))
    (taken : acc.data.toList <+: X) {n : Nat} (ask : 0 < n) (within : n ≤ X.length - acc.size) :
    ∃ b r', r.read n = .ok (b, r') ∧ 0 < b.size ∧ b.size ≤ n ∧ (acc ++ b).data.toList <+: X ∧
      Yields r' (X.drop (acc ++ b).size ++ R) := by
  obtain ⟨b, r', step, pos, le, first, y'⟩ := y.read_part ask (by simpa using within)
  have more : (acc ++ b).data.toList <+: X := by
    obtain ⟨tail, rfl⟩ := taken
    refine ⟨(tail.drop b.size), ?_⟩
    simp only [ByteArray.data_append, Array.toList_append, List.append_assoc]
    rw [first]
    simp [List.take_append_drop]
  have next : (X.drop acc.size).drop b.size = X.drop (acc ++ b).size := by
    simp [List.drop_drop]
  exact ⟨b, r', step, pos, le, more, next ▸ y'⟩

end Zstd.Stream

namespace Archive

open Zstd.Stream

theorem byteArray_eq_of_data {b : ByteArray} {X : List UInt8} (same : b.data.toList = X) : b = ⟨X.toArray⟩ := by
  subst same
  rfl

theorem readExact_go {X R : List UInt8} :
    ∀ (fuel : Nat) (r : Zstd.Stream) (acc : ByteArray), acc.data.toList <+: X → X.length - acc.size < fuel →
      Yields r (X.drop acc.size ++ R) →
      ∃ r', readExact.go X.length r acc fuel = .ok (⟨X.toArray⟩, r') ∧ Yields r' R
  | 0, _, _, _, fueled, _ => absurd fueled (Nat.not_lt_zero _)
  | fuel + 1, r, acc, taken, fueled, y => by
    have size : acc.size ≤ X.length := by simpa using taken.length_le
    rw [readExact.go]
    by_cases done : acc.size ≥ X.length
    · -- everything was read: `acc` is `X`
      have whole : acc.data.toList = X := taken.eq_of_length (by simp; omega)
      rw [if_pos done, byteArray_eq_of_data whole]
      exact ⟨r, rfl, by simpa [List.drop_eq_nil_of_le (by omega : X.length ≤ acc.size)] using y⟩
    · rw [if_neg done]
      obtain ⟨b, r', step, pos, le, more, y'⟩ := y.read_prefix taken (n := X.length - acc.size) (by omega) (by omega)
      obtain ⟨r'', rest, y''⟩ := readExact_go fuel r' (acc ++ b) more (by simp; omega) y'
      refine ⟨r'', ?_, y''⟩
      simp only [step, show ¬ b.size = 0 by omega, if_false]
      exact rest

theorem readExact_yields {r : Zstd.Stream} {X R : List UInt8} (y : Yields r (X ++ R)) :
    ∃ r', readExact r X.length = .ok (⟨X.toArray⟩, r') ∧ Yields r' R :=
  readExact_go (X.length + 1) r ByteArray.empty (by simp) (by simp) (by simpa using y)

theorem readLength_go {X R : List UInt8} (four : X.length = 4) :
    ∀ (fuel : Nat) (r : Zstd.Stream) (acc : ByteArray), acc.data.toList <+: X → 4 - acc.size < fuel →
      Yields r (X.drop acc.size ++ R) →
      ∃ r', readLength.go r acc fuel = .ok (some (Zstd.leValue X, r')) ∧ Yields r' R
  | 0, _, _, _, fueled, _ => absurd fueled (Nat.not_lt_zero _)
  | fuel + 1, r, acc, taken, fueled, y => by
    have size : acc.size ≤ 4 := by simpa [four] using taken.length_le
    rw [readLength.go]
    by_cases done : acc.size ≥ 4
    · have whole : acc.data.toList = X := taken.eq_of_length (by simp; omega)
      rw [if_pos done, Zstd.toList_eq_data, whole]
      exact ⟨r, rfl, by simpa [List.drop_eq_nil_of_le (by omega : X.length ≤ acc.size)] using y⟩
    · rw [if_neg done]
      obtain ⟨b, r', step, pos, le, more, y'⟩ := y.read_prefix taken (n := 4 - acc.size) (by omega) (by omega)
      obtain ⟨r'', rest, y''⟩ := readLength_go four fuel r' (acc ++ b) more (by simp; omega) y'
      refine ⟨r'', ?_, y''⟩
      simp only [step, show ¬ b.size = 0 by omega, if_false]
      exact rest

theorem readLength_yields {r : Zstd.Stream} {X R : List UInt8} (four : X.length = 4) (y : Yields r (X ++ R)) :
    ∃ r', readLength r = .ok (some (Zstd.leValue X, r')) ∧ Yields r' R :=
  readLength_go four 5 r ByteArray.empty (by simp) (by simp) (by simpa using y)

theorem readLength_end {r : Zstd.Stream} (y : Yields r []) : readLength r = .ok none := by
  obtain ⟨b, r', step, empty, -⟩ := y.read_end (n := 4) (by decide)
  simp [readLength, readLength.go, step, empty]
  rfl

/-- What the content loop has: the bytes so far and the bytes `Y` still to read make up `X`,
the buffer holds no more than its capacity, and reads are asked to be of some size. -/
structure Taking.Holds (t : Taking) (X Y : List UInt8) : Prop where
  whole : t.data.data.toList ++ Y = X
  left : t.left = Y.length
  fits : t.data.size ≤ t.cap
  asks : 0 < t.maxRead

theorem readUpTo_go {X R : List UInt8} :
    ∀ (fuel : Nat) (t : Taking) (r : Zstd.Stream) (Y : List UInt8), t.Holds X Y → Y.length < fuel →
      Yields r (Y ++ R) → ∃ r', readUpTo.go t r fuel = .ok (⟨X.toArray⟩, r') ∧ Yields r' R
  | 0, _, _, _, _, fueled, _ => absurd fueled (Nat.not_lt_zero _)
  | fuel + 1, t, r, Y, holds, fueled, y => by
    rw [readUpTo.go]
    by_cases done : t.left = 0
    · -- nothing is left to read: the bytes so far are the content
      have none : Y = [] := List.eq_nil_of_length_eq_zero (holds.left ▸ done)
      subst none
      have whole : t.data = ⟨X.toArray⟩ := byteArray_eq_of_data (by simpa using holds.whole)
      rw [if_pos done, whole]
      exact ⟨r, rfl, by simpa using y⟩
    · rw [if_neg done]
      -- the buffer has room, or grows to have some, so the read asks for something
      obtain ⟨cap, capIs, grown⟩ : ∃ cap, (if t.data.size = t.cap then max (2 * t.cap) (t.data.size + 32)
          else t.cap) = cap ∧ t.data.size < cap := by
        refine ⟨_, rfl, ?_⟩
        have fits := holds.fits
        split <;> omega
      simp only [capIs]
      have asks := holds.asks
      obtain ⟨b, r', step, pos, le, first, y'⟩ :=
        y.read_part (Y := Y) (n := min (min (cap - t.data.size) t.maxRead) t.left) (by omega)
          (by have := holds.left; omega)
      simp only [step, show ¬ b.size = 0 by omega, if_false]
      have left := holds.left
      refine readUpTo_go fuel _ r' (Y.drop b.size) ⟨?_, ?_, ?_, ?_⟩ (by simp; omega) y'
      · rw [ByteArray.data_append, Array.toList_append, List.append_assoc, first, List.take_append_drop]
        exact holds.whole
      · simp [holds.left]
      · simp only [ByteArray.size_append]
        omega
      · have pow : 0 < Nat.pow 2 64 := Nat.two_pow_pos 64
        dsimp only
        split_ifs <;> omega

theorem readUpTo_yields {r : Zstd.Stream} {X R : List UInt8} (y : Yields r (X ++ R)) :
    ∃ r', readUpTo r X.length = .ok (⟨X.toArray⟩, r') ∧ Yields r' R := by
  unfold readUpTo
  by_cases empty : X.length = 0
  · have none : X = [] := List.eq_nil_of_length_eq_zero empty
    subst none
    exact ⟨r, rfl, y⟩
  · rw [if_neg empty]
    obtain ⟨b, r', step, pos, le, first, y'⟩ := y.read_part (Y := X) (n := min 32 X.length) (by omega) (by omega)
    have holds : Taking.Holds ⟨b, max b.size 8, X.length - b.size, 8192, 0⟩ X (X.drop b.size) :=
      ⟨by rw [first, List.take_append_drop], by simp, by simp, by simp⟩
    obtain ⟨r'', rest, y''⟩ := readUpTo_go (X.length + 2) _ r' (X.drop b.size) holds (by simp; omega) y'
    refine ⟨r'', ?_, y''⟩
    simp only [step, show ¬ b.size = 0 by omega, if_false]
    exact rest

/-- What an entry can be written for: a plain name whose bytes fit in four bytes of length, and
a content whose size fits in eight. -/
structure Writable (name : String) (data : ByteArray) : Prop where
  plain : plainName name = true
  shortName : name.toUTF8.size < 2 ^ 32
  shortData : data.size < 2 ^ 64

theorem fromUTF8?_toUTF8 (s : String) : String.fromUTF8? ⟨s.toUTF8.toList.toArray⟩ = some s := by
  rw [Zstd.toList_eq_data]
  simp [String.fromUTF8?, String.fromUTF8, s.isValidUTF8]

theorem leValue_leBytes_of_lt {v w : Nat} (small : v < 256 ^ w) : Zstd.leValue (Zstd.leBytes v w) = v := by
  rw [Zstd.leValue_leBytes, Nat.mod_eq_of_lt small]

/-- An entry reads back as the name and the content it was written from. -/
theorem readEntry_entry {r : Zstd.Stream} {name : String} {data : ByteArray} {R : List UInt8}
    (ok : Writable name data) (y : Yields r (entry name data.toList ++ R)) :
    ∃ r', readEntry r = .ok (some (name, data, r')) ∧ Yields r' R := by
  have nameSize : name.toUTF8.toList.length < 256 ^ 4 := by
    simpa [Zstd.toList_eq_data] using ok.shortName
  have dataSize : data.toList.length < 256 ^ 8 := by
    simpa [Zstd.toList_eq_data] using ok.shortData
  simp only [entry, List.append_assoc] at y
  obtain ⟨r₁, length, y₁⟩ := readLength_yields (Zstd.length_leBytes _ 4) y
  obtain ⟨r₂, named, y₂⟩ := readExact_yields y₁
  obtain ⟨r₃, sized, y₃⟩ := readExact_yields y₂
  obtain ⟨r₄, read, y₄⟩ := readUpTo_yields y₃
  rw [Zstd.length_leBytes] at sized
  rw [leValue_leBytes_of_lt nameSize] at length
  have content : (⟨data.toList.toArray⟩ : ByteArray) = data := by
    rw [Zstd.toList_eq_data]
  have count : Zstd.leValue (ByteArray.mk (Zstd.leBytes data.toList.length 8).toArray).toList = data.toList.length := by
    rw [Zstd.toList_eq_data]
    exact leValue_leBytes_of_lt dataSize
  refine ⟨r₄, ?_, y₄⟩
  unfold readEntry
  simp only [bind, Except.bind, pure, Except.pure, length, named, fromUTF8?_toUTF8, ok.plain, sized, count, read,
    content, Bool.not_true, Bool.false_eq_true, if_false]

theorem readEntry_end {r : Zstd.Stream} (y : Yields r []) : readEntry r = .ok none := by
  unfold readEntry
  simp only [bind, Except.bind, readLength_end y]
  rfl

/-- The bytes of a list of entries, one after another, as packing writes them after the magic. -/
def written (es : List (String × ByteArray)) : List UInt8 := (es.map fun e => entry e.1 e.2.toList).flatten

/-- The entries a stream hands out, one `readEntry` after another, and then its clean end. -/
def ReadsEntries : Zstd.Stream → List (String × ByteArray) → Prop
  | r, [] => readEntry r = .ok none
  | r, e :: es => ∃ r', readEntry r = .ok (some (e.1, e.2, r')) ∧ ReadsEntries r' es

/-- A stream that hands out written entries reads back as those entries, in order, and then
ends. -/
theorem readsEntries_written : ∀ {es : List (String × ByteArray)} {r : Zstd.Stream},
    (∀ e ∈ es, Writable e.1 e.2) → Yields r (written es) → ReadsEntries r es
  | [], _, _, y => readEntry_end y
  | e :: es, r, ok, y => by
    obtain ⟨r', read, y'⟩ := readEntry_entry (ok e (List.mem_cons_self ..)) (by simpa [written] using y)
    exact ⟨r', read, readsEntries_written (fun e' mem => ok e' (List.mem_cons_of_mem _ mem)) y'⟩

end Archive

end JobFlow
