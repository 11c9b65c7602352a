import JobFlow.Zstd.Entropy

/-!
# Compressed zstd blocks

A compressed block is a literals section and a sequences section.
-/

namespace JobFlow.Zstd

/-- The faults a zstd stream can stop at. -/
inductive Fault where
  | corruption
  | checksum
  | dictionary
  | prefixUnknown
  | unsupported
  | windowTooLarge
  | srcSize
  | dstTooSmall
  | literalsHeader
  | dictionaryCorrupted
  | incomplete
  deriving DecidableEq, Repr, Inhabited

/-- The text of a fault, as the reference library names it. -/
def Fault.text : Fault → String
  | .corruption => "Data corruption detected"
  | .checksum => "Restored data doesn't match checksum"
  | .dictionary => "Dictionary mismatch"
  | .prefixUnknown => "Unknown frame descriptor"
  | .unsupported => "Unsupported frame parameter"
  | .windowTooLarge => "Frame requires too much memory for decoding"
  | .srcSize => "Src size is incorrect"
  | .dstTooSmall => "Destination buffer is too small"
  | .literalsHeader => "Header of Literals' block doesn't respect format specification"
  | .dictionaryCorrupted => "Dictionary is corrupted"
  | .incomplete => "incomplete frame"

/-- What the codes of one sequence field stand for, and how its tables are bounded. -/
structure Codes where
  base : Array Nat
  extra : Array Nat
  maxSymbol : Nat
  maxLog : Nat
  defaultNorm : Array Int
  defaultLog : Nat

/-- Literal lengths: codes up to 15 are the length itself, longer ones a base and extra
bits. -/
def literalCodes : Codes where
  base := (List.range 16).toArray ++
    #[16, 18, 20, 22, 24, 28, 32, 40, 48, 64, 128, 256, 512, 1024, 2048, 4096, 8192, 16384,
      32768, 65536]
  extra := Array.replicate 16 0 ++ #[1, 1, 1, 1, 2, 2, 3, 3, 4, 6, 7, 8, 9, 10, 11, 12, 13, 14, 15, 16]
  maxSymbol := 35
  maxLog := 9
  defaultNorm := #[4, 3, 2, 2, 2, 2, 2, 2, 2, 2, 2, 2, 2, 1, 1, 1, 2, 2, 2, 2, 2, 2, 2, 2,
    2, 3, 2, 1, 1, 1, 1, 1, -1, -1, -1, -1]
  defaultLog := 6

/-- Match lengths: codes up to 31 are the length less three, longer ones a base and
extra bits. -/
def matchCodes : Codes where
  base := ((List.range 32).map (· + 3)).toArray ++
    #[35, 37, 39, 41, 43, 47, 51, 59, 67, 83, 99, 131, 259, 515, 1027, 2051, 4099, 8195,
      16387, 32771, 65539]
  extra := Array.replicate 32 0 ++ #[1, 1, 1, 1, 2, 2, 3, 3, 4, 4, 5, 7, 8, 9, 10, 11, 12, 13, 14, 15, 16]
  maxSymbol := 52
  maxLog := 9
  defaultNorm := #[1, 4, 3, 2, 2, 2, 2, 2, 2, 1, 1, 1, 1, 1, 1, 1, 1, 1, 1, 1, 1, 1, 1, 1,
    1, 1, 1, 1, 1, 1, 1, 1, 1, 1, 1, 1, 1, 1, 1, 1, 1, 1, 1, 1, 1, 1, -1, -1, -1, -1, -1, -1, -1]
  defaultLog := 6

/-- Offsets: code `k` reads `k` extra bits; from code 2 on the offset is `2^k - 3` plus
them, codes 0 and 1 choose among the recent offsets. -/
def offsetCodes : Codes where
  base := ((List.range 32).map (fun k => if k = 0 then 0 else if k = 1 then 1 else Nat.pow 2 k - 3)).toArray
  extra := (List.range 32).toArray
  maxSymbol := 31
  maxLog := 8
  defaultNorm := #[1, 1, 1, 1, 1, 1, 2, 2, 2, 1, 1, 1, 1, 1, 1, 1, 1, 1, 1, 1, 1, 1, 1, 1,
    -1, -1, -1, -1, -1]
  defaultLog := 5

/-- The predefined table of a field. -/
def Codes.defaultTable (c : Codes) : FseTable :=
  buildFse c.defaultNorm (c.defaultNorm.size - 1) c.defaultLog

/-- The table of one symbol repeated: no bits read, always that symbol. -/
def repeatTable (s : Nat) : FseTable := ⟨0, #[⟨s, 0, 0⟩], false⟩

/-- What a frame's blocks hand on to the next block: the output so far (from which matches
copy), the first position matches may reach, the last Huffman table, whether sequence
tables may be repeated, the three tables, and the recent offsets. -/
structure Ctx where
  out : ByteArray
  reach : Nat
  huf : Option HufTable
  fseEntropy : Bool
  ll : FseTable
  of : FseTable
  ml : FseTable
  reps : Nat × Nat × Nat

/-- The context at the start of a frame: no output, and the offsets 1, 4 and 8. -/
def Ctx.initial : Ctx :=
  ⟨ByteArray.empty, 0, none, false, literalCodes.defaultTable, offsetCodes.defaultTable,
    matchCodes.defaultTable, (1, 4, 8)⟩

/-- The literals section at `off`, `size` bytes being left in the block: the literals, the
bytes the section takes, whether they were used in place in the block, and the context
with the Huffman table it leaves. -/
def literals (ctx : Ctx) (src : ByteArray) (off size bsm cap : Nat) :
    Except Fault (ByteArray × Nat × Bool × Ctx) := do
  if size < 2 then throw .corruption
  let b0 := byteAt src off
  let kind := b0 % 4
  let lhl := (b0 / 4) % 4
  let writable := min bsm cap
  if kind = 0 then
    let (lh, litSize) ← match lhl with
      | 1 => pure (2, readLE src off 2 / 16)
      | 3 => if size < 3 then throw .corruption else pure (3, readLE src off 3 / 16)
      | _ => pure (1, b0 / 8)
    if litSize > bsm then throw .corruption
    if writable < litSize then throw .dstTooSmall
    if lh + litSize > size then throw .corruption
    pure (src.extract (off + lh) (off + lh + litSize), lh + litSize, lh + litSize + 32 ≤ size, ctx)
  else if kind = 1 then
    let (lh, litSize) ← match lhl with
      | 1 => if size < 3 then throw .corruption else pure (2, readLE src off 2 / 16)
      | 3 => if size < 4 then throw .corruption else pure (3, readLE src off 3 / 16)
      | _ => pure (1, b0 / 8)
    if litSize > bsm then throw .corruption
    if writable < litSize then throw .dstTooSmall
    pure (ByteArray.mk (Array.replicate litSize (byteAt src (off + lh)).toUInt8), lh + 1, false, ctx)
  else
    if kind = 3 ∧ ctx.huf.isNone then throw .dictionaryCorrupted
    if size < 5 then throw .corruption
    let lhc := readLE src off 4
    let (single, lh, litSize, litCSize) := match lhl with
      | 0 => (true, 3, (lhc / 16) % 1024, (lhc / 16384) % 1024)
      | 1 => (false, 3, (lhc / 16) % 1024, (lhc / 16384) % 1024)
      | 2 => (false, 4, (lhc / 16) % 16384, lhc / 262144)
      | _ => (false, 5, (lhc / 16) % 262144, lhc / 4194304 + byteAt src (off + 4) * 1024)
    if litSize > bsm then throw .corruption
    if !single ∧ litSize < 6 then throw .literalsHeader
    if litCSize + lh > size then throw .corruption
    if writable < litSize then throw .dstTooSmall
    let start := off + lh
    let decode (t : HufTable) (at0 len : Nat) : Option ByteArray :=
      if single then hufOne t src at0 len litSize else hufFour t src at0 len litSize
    let decoded : Option (ByteArray × HufTable) :=
      if kind = 3 then
        match ctx.huf with
        | some t => (decode t start litCSize).map (·, t)
        | none => none
      else if !single ∧ litCSize = 0 then none
      else
        match readHuffman src start litCSize with
        | none => none
        | some (t, h) => if h ≥ litCSize then none else (decode t (start + h) (litCSize - h)).map (·, t)
    match decoded with
    | none => throw .corruption
    | some (lits, t) => pure (lits, lh + litCSize, false, { ctx with huf := some t })

/-- The table of one field in a sequences header: predefined (mode 0), one symbol (1),
described (2) or kept from before (3); answers it and the bytes its description takes. -/
def seqTable (c : Codes) (mode : Nat) (current : FseTable) (mayRepeat : Bool) (src : ByteArray)
    (off size : Nat) : Except Fault (FseTable × Nat) :=
  match mode with
  | 0 => pure (c.defaultTable, 0)
  | 1 =>
    if size = 0 then throw .corruption
    else
      let s := byteAt src off
      if s > c.maxSymbol then throw .corruption else pure (repeatTable s, 1)
  | 3 => if mayRepeat then pure (current, 0) else throw .corruption
  | _ =>
    match readCounts src off size c.maxSymbol with
    | none => throw .corruption
    | some n =>
      if n.tableLog > c.maxLog then throw .corruption
      else pure (buildFse n.norm n.maxSymbol n.tableLog, n.size)

/-- The sequences header at `off` with `size` bytes left in the block: the number of
sequences, the bytes the header takes, and the context with the tables it sets. -/
def seqHeader (ctx : Ctx) (src : ByteArray) (off size : Nat) : Except Fault (Nat × Nat × Ctx) := do
  if size < 1 then throw .srcSize
  let b0 := byteAt src off
  let (nbSeq, used) ← if b0 < 128 then pure (b0, 1)
    else if b0 = 255 then
      if size < 3 then throw .srcSize else pure (readLE src (off + 1) 2 + 0x7F00, 3)
    else if size < 2 then throw .srcSize
    else pure ((b0 - 128) * 256 + byteAt src (off + 1), 2)
  if nbSeq = 0 then
    if used ≠ size then throw .corruption
    return (0, used, ctx)
  if used + 1 > size then throw .srcSize
  let modes := byteAt src (off + used)
  if modes % 4 ≠ 0 then throw .corruption
  let p := off + used + 1
  let left := size - used - 1
  let (ll, n1) ← seqTable literalCodes (modes / 64) ctx.ll ctx.fseEntropy src p left
  let (of, n2) ← seqTable offsetCodes ((modes / 16) % 4) ctx.of ctx.fseEntropy src (p + n1) (left - n1)
  let (ml, n3) ← seqTable matchCodes ((modes / 4) % 4) ctx.ml ctx.fseEntropy src (p + n1 + n2)
    (left - n1 - n2)
  return (nbSeq, used + 1 + n1 + n2 + n3, { ctx with ll, of, ml })

/-- Appends `len` bytes copied from `dist` bytes back, one at a time, so that a copy may
overlap what it writes. -/
def copyBack (out : ByteArray) (dist : Nat) : Nat → ByteArray
  | 0 => out
  | len + 1 => copyBack (out.push (out[out.size - dist]?.getD 0)) dist len

/-- The largest 64-bit unsigned value: an offset that cannot be valid. -/
def noOffset : Nat := Nat.pow 2 64 - 1

/-- One decoded sequence: literal length, match length, offset. -/
structure Sequence where
  litLength : Nat
  matchLength : Nat
  offset : Nat

/-- The decoding states of the three fields. -/
structure States where
  ll : Nat
  of : Nat
  ml : Nat

/-- Decodes one sequence from the states: the offset's extra bits, the match length's,
the literal length's, then (but for the last sequence) the three state updates. -/
def decodeSequence (ctx : Ctx) (st : States) (reps : Nat × Nat × Nat) (d : BackBits)
    (last : Bool) : Sequence × (Nat × Nat × Nat) × States × BackBits :=
  let llSlot := ctx.ll.slots[st.ll]?.getD default
  let mlSlot := ctx.ml.slots[st.ml]?.getD default
  let ofSlot := ctx.of.slots[st.of]?.getD default
  let llBase := literalCodes.base[llSlot.symbol]?.getD 0
  let llBits := literalCodes.extra[llSlot.symbol]?.getD 0
  let mlBase := matchCodes.base[mlSlot.symbol]?.getD 0
  let mlBits := matchCodes.extra[mlSlot.symbol]?.getD 0
  let ofBase := offsetCodes.base[ofSlot.symbol]?.getD 0
  let ofBits := offsetCodes.extra[ofSlot.symbol]?.getD 0
  let (r0, r1, r2) := reps
  let ll0 := llBase = 0
  let (offset, reps, d) :=
    if ofBits > 1 then
      let (v, d) := d.readFast ofBits
      let o := ofBase + v
      (o, (o, r0, r1), d)
    else if ofBits = 0 then
      if ll0 then (r1, (r1, r0, r2), d) else (r0, (r0, r1, r2), d)
    else
      let (v, d) := d.readFast 1
      let code := ofBase + (if ll0 then 1 else 0) + v
      let temp := if code = 3 then (r0 + noOffset) % Nat.pow 2 64
        else if code = 1 then r1 else if code = 2 then r2 else r0
      let temp := if temp = 0 then noOffset else temp
      let reps := if code = 1 then (temp, r0, r2) else (temp, r0, r1)
      (temp, reps, d)
  let (mlExtra, d) := if mlBits > 0 then d.readFast mlBits else (0, d)
  let d := if llBits + mlBits + ofBits ≥ 31 then d.reload.1 else d
  let (llExtra, d) := if llBits > 0 then d.readFast llBits else (0, d)
  let (st, d) :=
    if last then (st, d)
    else
      let (a, d) := d.read llSlot.nbBits
      let (b, d) := d.read mlSlot.nbBits
      let (c, d) := d.read ofSlot.nbBits
      (⟨llSlot.baseline + a, ofSlot.baseline + c, mlSlot.baseline + b⟩, d.reload.1)
  (⟨llBase + llExtra, mlBase + mlExtra, offset⟩, reps, st, d)

/-- Runs the sequences of a block whose output starts at `blockStart` of the frame's
output, with room for `limit` bytes of it: each copies its literals and then its match. -/
def runSequences (ctx : Ctx) (lits : ByteArray) (blockStart limit : Nat) :
    Nat → States → (Nat × Nat × Nat) → BackBits → ByteArray → Nat →
      Except Fault ((Nat × Nat × Nat) × BackBits × ByteArray × Nat)
  | 0, _, reps, d, out, litPos => pure (reps, d, out, litPos)
  | n + 1, st, reps, d, out, litPos => do
    let (sq, reps, st, d) := decodeSequence ctx st reps d (n = 0)
    let op := out.size - blockStart
    if sq.litLength + sq.matchLength > limit - op then throw .dstTooSmall
    if sq.litLength > lits.size - litPos then throw .corruption
    let out := out ++ lits.extract litPos (litPos + sq.litLength)
    if sq.offset > out.size - ctx.reach then throw .corruption
    let out := copyBack out sq.offset sq.matchLength
    runSequences ctx lits blockStart limit n st reps d out (litPos + sq.litLength)

/-- Decodes a compressed block of `size` bytes at `off` onto the frame's output. -/
def compressedBlock (ctx : Ctx) (src : ByteArray) (off size bsm cap : Nat) (whole : Bool) :
    Except Fault Ctx := do
  if size > bsm then throw .srcSize
  let (lits, litUsed, inPlace, ctx) ← literals ctx src off size bsm cap
  let (nbSeq, seqUsed, ctx) ← seqHeader ctx src (off + litUsed) (size - litUsed)
  if cap = 0 ∧ nbSeq > 0 then throw .dstTooSmall
  -- literals kept after the block's room in a whole-frame buffer bound the output there
  let limit := if !inPlace ∧ whole ∧ cap > bsm + 64 + lits.size then bsm + 32 else cap
  let blockStart := ctx.out.size
  let seqOff := off + litUsed + seqUsed
  let seqSize := size - litUsed - seqUsed
  let (reps, fse, out, litPos) ← if nbSeq = 0 then pure (ctx.reps, ctx.fseEntropy, ctx.out, 0)
    else do
      let some d := BackBits.init src seqOff seqSize | throw .corruption
      let (sLL, d) := d.read ctx.ll.log
      let d := d.reload.1
      let (sOF, d) := d.read ctx.of.log
      let d := d.reload.1
      let (sML, d) := d.read ctx.ml.log
      let d := d.reload.1
      let (reps, d, out, litPos) ←
        runSequences ctx lits blockStart limit nbSeq ⟨sLL, sOF, sML⟩ ctx.reps d ctx.out 0
      if !d.finished then throw .corruption
      pure (reps, true, out, litPos)
  let rest := lits.size - litPos
  if rest > limit - (out.size - blockStart) then throw .dstTooSmall
  pure { ctx with out := out ++ lits.extract litPos lits.size, reps, fseEntropy := fse }

end JobFlow.Zstd
