import Mathlib
import JobFlow.Zstd

/-!
# Frames written by `compress` read back

`Zstd.compress` writes its bytes as one frame of raw blocks: a header of six bytes (a window of
1 MiB, no content size, no checksum), then blocks of at most 128 KiB, the last one flagged.
-/

namespace JobFlow.Zstd

/-! ### Bytes -/

theorem toList_eq_data (b : ByteArray) : b.toList = b.data.toList := by
  -- the loop of `toList` conses the bytes from `i` on and reverses the result at the end
  have loop : ∀ i r, ByteArray.toList.loop b i r = r.reverse ++ b.data.toList.drop i := by
    intro i r
    fun_induction ByteArray.toList.loop b i r with
    | case1 i r lt ih =>
      have inside : i < b.data.toList.length := by simpa using lt
      have this : b.get! i = b.data.toList[i] := by
        simp [ByteArray.get!, getElem!_pos, lt]
      rw [ih, List.drop_eq_getElem_cons inside, this]
      simp
    | case2 i r ge =>
      have past : b.data.toList.length ≤ i := by simpa using ge
      simp [List.drop_eq_nil_of_le past]
  simpa [ByteArray.toList] using loop 0 []

theorem byteAt_eq (b : ByteArray) (i : Nat) : byteAt b i = (b.data.toList.getD i 0).toNat := by
  by_cases inside : i < b.size
  · simp [byteAt, inside, List.getD_eq_getElem?_getD, ByteArray.getElem_eq_getElem_data]
  · simp [byteAt, inside, List.getD_eq_getElem?_getD]

theorem readLE_succ (b : ByteArray) (i n : Nat) : readLE b i (n + 1) = byteAt b i + 256 * readLE b (i + 1) n := by
  simp [readLE, List.range_succ_eq_map, List.foldr_map, Nat.add_assoc, Nat.add_comm 1]

/-- The little-endian number read at `i` is the value of the bytes there. -/
theorem readLE_of_drop {b : ByteArray} : ∀ {i : Nat} {l rest : List UInt8},
    b.data.toList.drop i = l ++ rest → readLE b i l.length = leValue l
  | i, [], rest, _ => rfl
  | i, x :: l, rest, at_ => by
    have first : byteAt b i = x.toNat := by
      have := congrArg (·[0]?) at_
      simp only [List.getElem?_drop, Nat.add_zero, List.cons_append, List.getElem?_cons_zero] at this
      simp [byteAt_eq, List.getD_eq_getElem?_getD, this]
    have next : b.data.toList.drop (i + 1) = l ++ rest := by
      rw [← List.drop_drop, at_]
      rfl
    rw [List.length_cons, readLE_succ, readLE_of_drop next, first, leValue]

@[simp] theorem length_leBytes (v w : Nat) : (leBytes v w).length = w := by
  induction w generalizing v with
  | zero => rfl
  | succ w ih => simp [leBytes, ih]

theorem leValue_leBytes (v w : Nat) : leValue (leBytes v w) = v % 256 ^ w := by
  induction w generalizing v with
  | zero => simp [leBytes, leValue, Nat.mod_one]
  | succ w ih =>
    rw [leBytes, leValue, ih, Nat.pow_succ, Nat.mul_comm _ 256, Nat.mod_mul]
    simp

theorem leValue_blockHeader (last : Bool) (size : Nat) (small : size ≤ blockLimit) :
    leValue (blockHeader last 0 size) = (if last then 1 else 0) + 8 * size := by
  rw [blockHeader, leValue_leBytes, Nat.mod_eq_of_lt]
  · simp
  · simp only [blockLimit] at small
    split <;> omega

@[simp] theorem length_blockHeader (last : Bool) (type size : Nat) : (blockHeader last type size).length = 3 := by
  simp [blockHeader]

theorem toList_extract_middle {src : ByteArray} {pre mid post : List UInt8}
    (bytes : src.data.toList = pre ++ mid ++ post) :
    (src.extract pre.length (pre.length + mid.length)).data.toList = mid := by
  simp [bytes]

/-! ### Raw blocks -/

theorem length_rawBlocks : ∀ {f : Nat} {rest : List UInt8}, rest.length / blockLimit < f →
    rest.length + 3 ≤ (rawBlocks.go rest f).length
  | 0, _, short => absurd short (Nat.not_lt_zero _)
  | f + 1, rest, enough => by
    rw [rawBlocks.go]
    split
    · simp [Nat.add_comm]
    · rename_i more
      have later := @length_rawBlocks f (rest.drop blockLimit)
        (by simp only [List.length_drop, blockLimit] at enough more ⊢; omega)
      simp only [List.length_append, length_blockHeader, List.length_take, List.length_drop] at later ⊢
      omega

section Frames

variable {src : ByteArray} {h : Header} {ringSize : Nat}

theorem le_size_of_compress {D : List UInt8} (bytes : src.data.toList = compress D) : D.length + 9 ≤ src.size := by
  have size := congrArg List.length bytes
  have blocks := @length_rawBlocks (D.length / blockLimit + 1) D (Nat.lt_succ_self _)
  simp only [compress, magic, rawBlocks, List.length_append, Array.length_toList, ByteArray.size_data,
    List.length_cons, List.length_nil] at size
  omega

/-- One raw block whose bytes are all there, in a frame with blocks of up to 128 KiB, no
content size and no checksum, decoded into a ring with room for a block: its bytes are the
next output, and the frame ends after it or goes on with a ring that still has room. -/
theorem streamBlocks_raw {r : Ring} (acc : List ByteArray) (fuel : Nat) (bsm : h.blockMax = blockLimit)
    (unsized : h.contentSize = none) (unsummed : h.checksum = false) {p size : Nat} {last : Bool}
    (header : readLE src p 3 = (if last then 1 else 0) + 8 * size) (small : size ≤ blockLimit)
    (present : p + 3 + size ≤ src.size) (fits : r.start + blockLimit ≤ ringSize) :
    ∃ r' : Ring, r'.start + blockLimit ≤ ringSize ∧
      streamBlocks src h ringSize r p acc (fuel + 1) =
        let acc := if size = 0 then acc else src.extract (p + 3) (p + 3 + size) :: acc
        if last then ⟨acc.reverse, .done (p + 3 + size)⟩
        else streamBlocks src h ringSize r' (p + 3 + size) acc fuel := by
  have there : ¬ src.size < p + 3 := by omega
  have whole : min size (src.size - (p + 3)) = size := by omega
  have room : ¬ ringSize - r.start < size := by omega
  have below : r.start < ringSize := by simp only [blockLimit] at fits; omega
  have notBig : ¬ blockLimit < size := by omega
  have taken : (src.extract (p + 3) (p + 3 + size)).size = size := by simp; omega
  have type : readLE src p 3 / 2 % 4 = 0 := by rw [header]; split <;> omega
  have sz : readLE src p 3 / 8 = size := by rw [header]; split <;> omega
  have flag : readLE src p 3 % 2 = 1 ↔ last = true := by rw [header]; cases last <;> simp <;> omega
  -- whether the ring's context is chosen anew only changes where matches may reach
  by_cases empty : size = 0
  · -- an empty block is passed over
    refine ⟨r, fits, ?_⟩
    simp [streamBlocks, type, sz, flag, there, bsm, unsummed, empty, frameEnd]
  · -- a block with bytes is handed out, and the ring moves on past it
    by_cases fresh : r.lastEnd = some r.start <;>
      simp [streamBlocks, type, sz, flag, there, whole, room, bsm, unsized, unsummed, fresh, empty, notBig,
        frameEnd, taken, ByteArray.extract_append_eq_right, below, Nat.pos_iff_ne_zero] <;>
      refine ⟨_, ?_, rfl⟩ <;> dsimp only <;> split <;> omega

/-- The raw blocks `rawBlocks.go rest f` standing at the end of the input decode to outputs
that hold `rest` between them, each of them some bytes, and the frame ends where the input
ends. -/
theorem streamBlocks_rawBlocks (bsm : h.blockMax = blockLimit) (unsized : h.contentSize = none)
    (unsummed : h.checksum = false) :
    ∀ (f : Nat) (rest pre : List UInt8) (r : Ring) (acc : List ByteArray) (fuel : Nat),
      src.data.toList = pre ++ rawBlocks.go rest f → rest.length / blockLimit < f →
      src.size - pre.length < fuel → r.start + blockLimit ≤ ringSize →
      ∃ cs, streamBlocks src h ringSize r pre.length acc fuel = ⟨acc.reverse ++ cs, .done src.size⟩ ∧
        (cs.map (·.data.toList)).flatten = rest ∧ ∀ c ∈ cs, 0 < c.size := by
  intro f
  induction f with
  | zero => intro rest pre r acc fuel _ short; exact absurd short (Nat.not_lt_zero _)
  | succ f ih =>
    intro rest pre r acc fuel bytes enough fueled fits
    obtain ⟨fuel, rfl⟩ : ∃ k, fuel = k + 1 := ⟨fuel - 1, by omega⟩
    rw [rawBlocks.go] at bytes
    split at bytes
    · -- the rest fits in one last block
      rename_i one
      have whole : src.data.toList = (pre ++ blockHeader true 0 rest.length) ++ rest ++ [] := by simp [bytes]
      have hsize : src.size = pre.length + 3 + rest.length := by
        have := congrArg List.length whole
        simp at this
        omega
      have header : readLE src pre.length 3 = (if true then 1 else 0) + 8 * rest.length := by
        have := readLE_of_drop
          (show src.data.toList.drop pre.length = blockHeader true 0 rest.length ++ rest by rw [bytes]; simp)
        simpa [leValue_blockHeader _ _ one] using this
      obtain ⟨r', -, step⟩ := streamBlocks_raw acc fuel bsm unsized unsummed header one (by omega) fits
      have chunk := toList_extract_middle whole
      simp only [List.length_append, length_blockHeader] at chunk
      refine ⟨if rest.length = 0 then [] else [src.extract (pre.length + 3) (pre.length + 3 + rest.length)],
        ?_, ?_, ?_⟩
      · rw [step, hsize]
        split <;> simp [*]
      · split
        · simp_all
        · simpa using chunk
      · split
        · simp
        · simp; omega
    · -- a full block, then the rest
      rename_i more
      have blk : (rest.take blockLimit).length = blockLimit := by simp; omega
      have whole : src.data.toList = (pre ++ blockHeader false 0 blockLimit) ++ rest.take blockLimit ++
          rawBlocks.go (rest.drop blockLimit) f := by simp [bytes]
      have hsize : pre.length + 3 + blockLimit ≤ src.size := by
        have := congrArg List.length whole
        simp at this
        omega
      have header : readLE src pre.length 3 = (if false then 1 else 0) + 8 * blockLimit := by
        have := readLE_of_drop (show src.data.toList.drop pre.length = blockHeader false 0 blockLimit ++
          (rest.take blockLimit ++ rawBlocks.go (rest.drop blockLimit) f) by rw [bytes]; simp)
        simpa [leValue_blockHeader _ _ (Nat.le_refl _)] using this
      obtain ⟨r', fits', step⟩ := streamBlocks_raw acc fuel bsm unsized unsummed header (Nat.le_refl _) hsize
        fits
      have chunk := toList_extract_middle whole
      simp only [List.length_append, length_blockHeader, blk] at chunk
      obtain ⟨cs, run, flat, sizes⟩ := ih (rest.drop blockLimit) (pre ++ blockHeader false 0 blockLimit ++
          rest.take blockLimit) r' (src.extract (pre.length + 3) (pre.length + 3 + blockLimit) :: acc) fuel
        (by simp [bytes]) (by simp only [List.length_drop, blockLimit] at enough more ⊢; omega)
        (by simp only [List.length_append, length_blockHeader, blk]; omega) fits'
      simp only [List.length_append, length_blockHeader, blk] at run
      refine ⟨src.extract (pre.length + 3) (pre.length + 3 + blockLimit) :: cs, ?_, ?_, ?_⟩
      · rw [step]
        simp [run, show blockLimit ≠ 0 by decide]
      · rw [List.map_cons, List.flatten_cons, chunk, flat, List.take_append_drop]
      · intro c mem
        rcases List.mem_cons.1 mem with rfl | later
        · have pos : 0 < blockLimit := by decide
          simp only [ByteArray.size_extract]
          omega
        · exact sizes c later

/-! ### The frame -/

theorem frameStart_compress {D : List UInt8} (bytes : src.data.toList = compress D) :
    frameStart src 0 = .zstd ⟨6, none, 1048576, 0, false⟩ := by
  have hm : readLE src 0 4 = 0xFD2FB528 := by
    have := readLE_of_drop
      (show src.data.toList.drop 0 = magic ++ ([0x00, 0x50] ++ rawBlocks D) by simp [bytes, compress])
    simpa [magic, leValue] using this
  have long := le_size_of_compress bytes
  have b4 : byteAt src 4 = 0 := by simp [byteAt_eq, bytes, compress, magic]
  have b5 : byteAt src 5 = 0x50 := by simp [byteAt_eq, bytes, compress, magic]
  have none : readLE src 6 0 = 0 := rfl
  simp [frameStart, hm, b4, b5, none, show ¬ src.size < 6 by omega, show ¬ src.size < 5 by omega]

theorem output_adapt (b : Buffers) (i o : Nat) : o ≤ (b.adapt i o).output := by
  unfold Buffers.adapt
  dsimp only
  -- made anew the buffer is exactly `o`; kept, it was not smaller than `o`
  split_ifs with idle grow grow <;> simp only [not_or, not_lt] at * <;> omega

/-- The decoder meets a frame written by `compress` at the start of its input, whatever its
buffers were, and decodes all of it at once. -/
theorem frameSteps_compress {D : List UInt8} (bytes : src.data.toList = compress D) (room : Nat) (bufs : Buffers) :
    ∃ cs bufs', frameSteps src 0 room bufs = (⟨cs, .done src.size⟩, bufs') ∧
      (cs.map (·.data.toList)).flatten = D ∧ ∀ c ∈ cs, 0 < c.size := by
  let h : Header := ⟨6, none, 1048576, 0, false⟩
  let bufs' := bufs.adapt (max h.blockMax 4) (ringNeed (max h.windowSize 1024) h.blockMax h.contentSize)
  have roomy : 0 + blockLimit ≤ bufs'.output := le_trans (by decide) (output_adapt ..)
  have framed : src.data.toList = (magic ++ [0x00, 0x50]) ++ rawBlocks.go D (D.length / blockLimit + 1) := by
    simpa [compress, rawBlocks] using bytes
  obtain ⟨cs, run, flat, sizes⟩ := @streamBlocks_rawBlocks src h bufs'.output rfl rfl rfl
    (D.length / blockLimit + 1) D (magic ++ [0x00, 0x50]) ⟨Ctx.initial, 0, none, 0⟩ [] (src.size + 1) framed
    (Nat.lt_succ_self _) (by omega) roomy
  refine ⟨cs, bufs', ?_, flat, sizes⟩
  simp only [magic, List.length_append, List.length_cons, List.length_nil, List.reverse_nil,
    List.nil_append] at run
  simp only [frameSteps, frameStart_compress bytes, streamFrame]
  simp only [windowLimit, Header.blockMax, blockLimit] at run ⊢
  simp
  exact ⟨run, rfl⟩

end Frames

namespace Stream

/-- The bytes decoded and not yet handed out: the pending output, then the later outputs of
the frame under way. -/
def queued (st : Stream) : List UInt8 := st.pending.data.toList ++ (st.chunks.map (·.data.toList)).flatten

/-- A frame decoded whole whose bytes are being handed out: it ends where the input ends,
and each of its later outputs holds bytes. -/
structure Decoded (st : Stream) : Prop where
  ending : st.ending = some (.done st.src.size)
  nonempty : ∀ c ∈ st.chunks, 0 < c.size
  reading : st.atEnd = false

/-- The last frame ended with all its bytes handed out, and the end is not yet reported. -/
structure Drained (st : Stream) : Prop where
  ending : st.ending = none
  past : st.src.size ≤ st.pos
  finished : st.finished = true
  empty : st.pending.size = 0
  reading : st.atEnd = false

/-- What a decoding run with `room` bytes of buffer, `out` already in it and the bytes `Q`
queued, leaves: the room filled from `Q`, and either all of `Q` handed out and the frame
drained, or the room full and the rest of `Q` still queued. -/
def RunsOut (Q : List UInt8) (room : Nat) (out out' : ByteArray) (st' : Stream) (pause : Pause) : Prop :=
  out'.data.toList = out.data.toList ++ Q.take (room - out.size) ∧
    ((Q.length ≤ room - out.size ∧ pause = .frameEnded ∧ st'.Drained) ∨
      (room - out.size < Q.length ∧ pause = .full ∧ st'.Decoded ∧ 0 < st'.pending.size ∧
        st'.queued = Q.drop (room - out.size)))

theorem run_decoded {room : Nat} :
    ∀ {fuel : Nat} {st : Stream} {out : ByteArray}, st.Decoded → st.chunks.length < fuel →
      ∃ out' st' pause, st.run room out fuel = .ok (out', st', pause) ∧ RunsOut st.queued room out out' st' pause
  | 0, _, _, _, fueled => absurd fueled (Nat.not_lt_zero _)
  | fuel + 1, st, out, dec, fueled => by
    rw [Stream.run]
    by_cases spill : room - out.size < st.pending.size
    · -- the pending output fills the room
      have k : min st.pending.size (room - out.size) = room - out.size := Nat.min_eq_right (Nat.le_of_lt spill)
      have left : 0 < (st.pending.extract (room - out.size) st.pending.size).size := by simp; omega
      simp only [k, left, if_true]
      have within : room - out.size ≤ st.pending.data.toList.length := by simp; omega
      refine ⟨_, _, _, rfl, ?_, .inr ⟨?_, rfl, ⟨dec.ending, dec.nonempty, dec.reading⟩, left, ?_⟩⟩
      · simp [queued, List.take_append_of_le_length within]
      · simp [queued]; omega
      · simp [queued, List.drop_append_of_le_length within]
    · -- the pending output all goes out, and the next output of the frame becomes pending
      have k : min st.pending.size (room - out.size) = st.pending.size := Nat.min_eq_left (by omega)
      simp only [k, ByteArray.size_extract, Nat.min_self, Nat.sub_self, gt_iff_lt, Nat.lt_irrefl, if_false,
        dec.ending]
      have whole : st.pending.extract 0 st.pending.size = st.pending := ByteArray.extract_zero_size
      rw [whole]
      cases chunks : st.chunks with
      | nil =>
        have queued : st.queued = st.pending.data.toList := by simp [queued, chunks]
        refine ⟨_, _, _, rfl, ?_, .inl ⟨?_, rfl, ⟨rfl, Nat.le_refl _, rfl, by simp, dec.reading⟩⟩⟩
        · simp [queued]; omega
        · simp [queued]; omega
      | cons c rest =>
        have later : c.data.toList ++ (rest.map (·.data.toList)).flatten = st.queued.drop st.pending.size := by
          simp [queued, chunks]
        obtain ⟨out', st', pause, run, taken, ended⟩ := @run_decoded room fuel
          { st with pending := c, chunks := rest, ending := some (.done st.src.size) } (out ++ st.pending)
          ⟨rfl, fun c' mem => dec.nonempty c' (by simp [chunks, mem]), dec.reading⟩
          (by simp [chunks] at fueled; omega)
        have room' : room - (out ++ st.pending).size = room - out.size - st.pending.size := by simp; omega
        have nextQueued : Stream.queued { st with pending := c, chunks := rest, ending := some (.done st.src.size) } =
            st.queued.drop st.pending.size := by simpa [queued] using later
        rw [room', nextQueued] at taken ended
        have long : st.pending.size ≤ st.queued.length := by simp [queued]
        refine ⟨out', st', pause, run, ?_, ?_⟩
        · rw [taken]
          have split : st.queued = st.pending.data.toList ++ st.queued.drop st.pending.size := by simp [queued]
          conv_rhs => rw [split, List.take_append]
          simp
          omega
        · have dropped : (st.queued.drop st.pending.size).drop (room - out.size - st.pending.size) =
              st.queued.drop (room - out.size) := by
            rw [List.drop_drop]
            congr 1
            omega
          rw [dropped, List.length_drop] at ended
          rcases ended with ⟨fits, rest⟩ | ⟨spills, rest⟩
          · exact .inl ⟨by omega, rest⟩
          · exact .inr ⟨by omega, rest⟩

theorem length_le_flatten : ∀ {cs : List ByteArray}, (∀ c ∈ cs, 0 < c.size) →
    cs.length ≤ (cs.map (·.data.toList)).flatten.length
  | [], _ => Nat.le_refl 0
  | c :: cs, sizes => by
    have first := sizes c (List.mem_cons_self ..)
    have rest := length_le_flatten fun c' mem => sizes c' (List.mem_cons_of_mem _ mem)
    simp only [List.length_cons, List.map_cons, List.flatten_cons, List.length_append, Array.length_toList,
      ByteArray.size_data]
    omega

theorem run_start {st : Stream} {D : List UInt8} (bytes : st.src.data.toList = compress D) (pos : st.pos = 0)
    (empty : st.pending.size = 0) (fresh : st.ending = none) (reading : st.atEnd = false)
    {room : Nat} {out : ByteArray} {fuel : Nat} (fueled : D.length + 1 < fuel) :
    ∃ out' st' pause, st.run room out fuel = .ok (out', st', pause) ∧ RunsOut D room out out' st' pause := by
  obtain ⟨fuel, rfl⟩ : ∃ k, fuel = k + 1 := ⟨fuel - 1, by omega⟩
  obtain ⟨cs, bufs', steps, flat, sizes⟩ := frameSteps_compress bytes (room - out.size) st.buffers
  have short := length_le_flatten sizes
  rw [flat] at short
  have inside := le_size_of_compress bytes
  have present : st.src ≠ ByteArray.empty := fun none => by simp [none] at inside
  let decoded : Stream :=
    { st with pending := ByteArray.empty, chunks := cs, ending := some (.done st.src.size), finished := false,
              buffers := bufs' }
  have queued : decoded.queued = D := by simp [decoded, queued, flat]
  obtain ⟨out', st', pause, run, runs⟩ := @run_decoded room fuel decoded out ⟨rfl, sizes, reading⟩
    (by simp [decoded]; omega)
  rw [queued] at runs
  refine ⟨out', st', pause, ?_, runs⟩
  rw [Stream.run]
  simpa [empty, fresh, pos, steps, present, decoded] using run

/-- A stream reading a frame that `compress` wrote, which will hand out the bytes `R` and
then end. -/
inductive Yields : Stream → List UInt8 → Prop
  /-- Nothing decoded yet. -/
  | start {st : Stream} {D : List UInt8} : st.src.data.toList = compress D → st.pos = 0 → st.pending.size = 0 →
      st.ending = none → st.atEnd = false → Yields st D
  /-- The frame decoded, and some of its bytes handed out. -/
  | decoded {st : Stream} : st.Decoded → Yields st st.queued
  /-- Every byte handed out. -/
  | drained {st : Stream} : st.Drained → Yields st []
  /-- The end reported. -/
  | ended {st : Stream} : st.atEnd = true → Yields st []

theorem read_of_runsOut {st : Stream} {Q : List UInt8} {n : Nat} (ask : 0 < n) (reading : st.atEnd = false)
    (empty : st.pending.size = 0) {out' : ByteArray} {st' : Stream} {pause : Pause}
    (run : st.run n ByteArray.empty (st.src.size + 4 * st.chunks.length + 8) = .ok (out', st', pause))
    (runs : RunsOut Q n ByteArray.empty out' st' pause) :
    ∃ b st'' R', st.read n = .ok (b, st'') ∧ Q = b.data.toList ++ R' ∧ b.size ≤ n ∧ (Q ≠ [] → 0 < b.size) ∧
      Yields st'' R' := by
  obtain ⟨taken, ends⟩ := runs
  simp only [ByteArray.data_empty, Array.toList_empty, List.nil_append, ByteArray.size_empty, Nat.sub_zero] at taken ends
  have size : out'.size = min n Q.length := by
    rw [← ByteArray.size_data, ← Array.length_toList, taken, List.length_take]
  unfold Stream.read
  simp only [reading, empty, Bool.false_eq_true, if_false, Nat.zero_min, gt_iff_lt, Nat.lt_irrefl]
  rw [Stream.read.go]
  simp only [run, bind, Except.bind]
  by_cases nothing : Q = []
  · -- nothing was queued: the frame ended with this call, which reports the end
    subst nothing
    obtain ⟨-, rfl, drained⟩ := ends.resolve_right (fun ⟨short, _⟩ => Nat.not_lt_zero _ short)
    have none : out'.size = 0 := by simpa using size
    refine ⟨ByteArray.empty, { st' with atEnd := true }, [], ?_, by simp, by simp, by simp, .ended rfl⟩
    simp [none, drained.past]
    rfl
  · -- some bytes were queued, and the call hands out as many as it asked for
    have some : 0 < out'.size := by
      rw [size]
      exact Nat.lt_min.2 ⟨ask, List.length_pos_iff.2 nothing⟩
    refine ⟨out', st', Q.drop n, by simp [some]; rfl, by rw [taken, List.take_append_drop], by omega, fun _ => some, ?_⟩
    rcases ends with ⟨short, -, drained⟩ | ⟨-, -, decoded, -, queued⟩
    · rw [List.drop_eq_nil_of_le short]
      exact .drained drained
    · rw [← queued]
      exact .decoded decoded

theorem Yields.read {st : Stream} {R : List UInt8} (y : Yields st R) {n : Nat} (ask : 0 < n) :
    ∃ b st' R', st.read n = .ok (b, st') ∧ R = b.data.toList ++ R' ∧ b.size ≤ n ∧ (R ≠ [] → 0 < b.size) ∧
      Yields st' R' := by
  cases y with
  | start bytes pos empty fresh reading =>
    have size := le_size_of_compress bytes
    obtain ⟨out', st', pause, run, runs⟩ := @run_start st _ bytes pos empty fresh reading n ByteArray.empty
      (st.src.size + 4 * st.chunks.length + 8) (by omega)
    exact read_of_runsOut ask reading empty run runs
  | decoded dec =>
    by_cases held : 0 < st.pending.size
    · -- output left from an earlier call is handed out first
      have k : 0 < min st.pending.size n := Nat.lt_min.2 ⟨held, ask⟩
      refine ⟨st.pending.extract 0 (min st.pending.size n),
        { st with pending := st.pending.extract (min st.pending.size n) st.pending.size }, _, ?_, ?_, by simp,
        fun _ => by simp [held, ask], .decoded ⟨dec.ending, dec.nonempty, dec.reading⟩⟩
      · simp [Stream.read, dec.reading, k]
        rfl
      · have rest : (st.pending.data.toList.drop (min st.pending.size n)).take
            (st.pending.size - min st.pending.size n) = st.pending.data.toList.drop (min st.pending.size n) :=
          List.take_of_length_le (by simp)
        simp only [queued, ByteArray.data_extract, Array.toList_extract, List.extract_eq_take_drop,
          Nat.sub_zero, List.drop_zero, rest]
        rw [← List.append_assoc, List.take_append_drop]
    · obtain ⟨out', st', pause, run, runs⟩ := @run_decoded n (st.src.size + 4 * st.chunks.length + 8) st
        ByteArray.empty dec (by omega)
      exact read_of_runsOut ask dec.reading (by omega) run runs
  | drained dr =>
    refine ⟨ByteArray.empty, { st with pending := st.pending.extract 0 0, atEnd := true }, [], ?_, by simp, by simp,
      by simp, .ended rfl⟩
    simp [Stream.read, dr.reading, dr.empty]
    rw [Stream.read.go, Stream.run]
    simp [dr.empty, dr.ending, dr.past, dr.finished, bind, Except.bind, pure, Except.pure]
  | ended atEnd =>
    refine ⟨ByteArray.empty, st, [], ?_, by simp, by simp, by simp, .ended atEnd⟩
    simp [Stream.read, atEnd]
    rfl

/-- Reading with calls of `n` bytes gathers what a stream still hands out. -/
theorem readAll_go {n : Nat} (ask : 0 < n) :
    ∀ {fuel : Nat} {st : Stream} {R : List UInt8} {acc : ByteArray}, Yields st R → R.length < fuel →
      ∃ out, readAll.go n st acc fuel = .ok out ∧ out.data.toList = acc.data.toList ++ R
  | 0, _, _, _, _, short => absurd short (Nat.not_lt_zero _)
  | fuel + 1, st, R, acc, yields, fueled => by
    obtain ⟨b, st', R', read, split, -, some, yields'⟩ := yields.read ask
    rw [readAll.go, read]
    by_cases done : b.size = 0
    · -- an empty read is the end, and nothing was left
      have none : R = [] := by
        by_contra left
        exact absurd (some left) (by omega)
      refine ⟨acc, by simp [bind, Except.bind, done]; rfl, by simp [none]⟩
    · have shorter : R'.length < fuel := by
        have : b.data.toList.length = b.size := by simp
        rw [split, List.length_append] at fueled
        omega
      obtain ⟨out, rest, gathered⟩ := @readAll_go n ask fuel st' R' (acc ++ b) yields' shorter
      refine ⟨out, by simpa [bind, Except.bind, done] using rest, by simp [gathered, split]⟩

end Stream

theorem decodeAll_compress (D : List UInt8) : decodeAll ⟨(compress D).toArray⟩ = .ok ⟨D.toArray⟩ := by
  have bytes : (ByteArray.mk (compress D).toArray).data.toList = compress D := rfl
  have size := le_size_of_compress bytes
  obtain ⟨out, run, gathered⟩ := @Stream.readAll_go copyBuffer (by decide)
    ((Stream.ofBytes ⟨(compress D).toArray⟩).src.size * 1024 + 16) (Stream.ofBytes ⟨(compress D).toArray⟩) D
    ByteArray.empty (.start bytes rfl rfl rfl rfl)
    (show D.length < ByteArray.size ⟨(compress D).toArray⟩ * 1024 + 16 by omega)
  have same : out = ⟨D.toArray⟩ := by
    apply ByteArray.ext
    apply Array.ext'
    simpa using gathered
  rw [decodeAll, Stream.readAll, run, same]

end JobFlow.Zstd
