import JobFlow.Zstd.Block
import JobFlow.Zstd.Hash

/-!
# zstd frames and streams

A zstd stream is a run of frames.
-/

namespace JobFlow.Zstd

/-- The first four bytes of every frame. -/
def magic : List UInt8 := [0x28, 0xB5, 0x2F, 0xFD]

/-- The largest block. -/
def blockLimit : Nat := 131072

/-- The largest window the streaming decoder accepts. -/
def windowLimit : Nat := Nat.pow 2 27 + 1

/-- A frame header. -/
structure Header where
  /-- Bytes of the header, magic included. -/
  size : Nat
  contentSize : Option Nat
  /-- The window as declared; for a single-segment frame, the content size field. -/
  windowSize : Nat
  dictId : Nat
  checksum : Bool
  deriving Inhabited

/-- The largest block of a frame. -/
def Header.blockMax (h : Header) : Nat := min h.windowSize blockLimit

/-- What the bytes at the start of a frame say. -/
inductive Start where
  /-- The header is not all there yet. -/
  | needMore
  | zstd (h : Header)
  /-- A skippable frame of this many bytes after its 8-byte header. -/
  | skippable (size : Nat)
  | fault (f : Fault)

/-- Whether up to four bytes may begin a frame or a skippable frame. -/
def startsFrame (bs : List UInt8) : Bool :=
  magic.take bs.length == bs ||
    (match bs with
     | [] => true
     | b :: rest => b.toNat / 16 == 5 && [0x2A, 0x4D, 0x18].take rest.length == rest)

/-- Reads the start of a frame at `pos`. -/
def frameStart (src : ByteArray) (pos : Nat) : Start :=
  let avail := src.size - pos
  if avail < 5 then
    if avail > 0 ∧ !startsFrame ((src.extract pos (pos + 4)).toList) then .fault .prefixUnknown
    else .needMore
  else
    let m := readLE src pos 4
    if m ≠ 0xFD2FB528 then
      if m / 16 = 0x184D2A5 then
        if avail < 8 then .needMore else .skippable (readLE src (pos + 4) 4)
      else .fault .prefixUnknown
    else
      let fhd := byteAt src (pos + 4)
      let single := (fhd / 32) % 2 = 1
      let dictCode := fhd % 4
      let fcsCode := fhd / 64
      let dictSize := [0, 1, 2, 4].getD dictCode 0
      let fcsSize := if fcsCode = 0 then (if single then 1 else 0) else [0, 2, 4, 8].getD fcsCode 0
      let hsize := 5 + (if single then 0 else 1) + dictSize + fcsSize
      if avail < hsize then .needMore
      else if (fhd / 8) % 2 = 1 then .fault .unsupported
      else
        let wl := byteAt src (pos + 5)
        let wlog := wl / 8 + 10
        if !single ∧ wlog > 31 then .fault .windowTooLarge
        else
          let window := Nat.pow 2 wlog + (Nat.pow 2 wlog / 8) * (wl % 8)
          let p := pos + 5 + (if single then 0 else 1)
          let dict := readLE src p dictSize
          let fcsAt := p + dictSize
          let fcs : Option Nat := match fcsCode with
            | 0 => if single then some (byteAt src fcsAt) else none
            | 1 => some (readLE src fcsAt 2 + 256)
            | 2 => some (readLE src fcsAt 4)
            | _ => some (readLE src fcsAt 8)
          let raw := fcs.getD (Nat.pow 2 64 - 1)
          let content := if raw = Nat.pow 2 64 - 1 then none else some raw
          .zstd ⟨hsize, content, if single then raw else window, dict, (fhd / 4) % 2 = 1⟩

/-- The bytes a frame takes when it is all there: its header, every block and its checksum;
`none` when a block is reserved or the bytes run out. -/
def frameLength (src : ByteArray) (pos : Nat) (h : Header) : Option Nat :=
  let rec go (p : Nat) : Nat → Option Nat
    | 0 => none
    | fuel + 1 =>
      if src.size < p + 3 then none
      else
        let bh := readLE src p 3
        let type := (bh / 2) % 4
        let csize := if type = 1 then 1 else bh / 8
        if type = 3 then none
        else if src.size < p + 3 + csize then none
        else if bh % 2 = 1 then
          let q := p + 3 + csize
          if h.checksum then (if src.size < q + 4 then none else some (q + 4 - pos)) else some (q - pos)
        else go (p + 3 + csize) fuel
  go (pos + h.size) (src.size + 1)

/-- How decoding a frame block by block ends: at the index after the frame, at a fault,
or for want of input. -/
inductive Ending where
  | done (next : Nat)
  | fault (f : Fault)
  | needInput
  deriving Inhabited

/-- The outputs of the steps of a frame that produced some, in order, and how it ends. -/
structure Steps where
  chunks : List ByteArray
  ending : Ending
  deriving Inhabited

/-- The state of block-by-block decoding: the blocks' context, where the next block goes
in the ring buffer, where the last block ended there (none before the first), and the
frame position where the current contiguous part of the ring begins. -/
structure Ring where
  ctx : Ctx
  start : Nat
  lastEnd : Option Nat
  prefixAt : Nat

/-- The checksum and the end of a frame after its last block, at `p`. -/
def frameEnd (src : ByteArray) (h : Header) (out : ByteArray) (p : Nat) : Ending :=
  if !h.checksum then .done p
  else if src.size < p + 4 then .needInput
  else if readLE src p 4 ≠ Hash.checksum out then .fault .checksum
  else .done (p + 4)

/-- Decodes the blocks of a frame from `p` one by one into a ring of `ringSize` bytes. -/
def streamBlocks (src : ByteArray) (h : Header) (ringSize : Nat) :
    Ring → Nat → List ByteArray → Nat → Steps
  | _, _, acc, 0 => ⟨acc.reverse, .needInput⟩
  | r, p, acc, fuel + 1 =>
    let bsm := h.blockMax
    let done (e : Ending) : Steps := ⟨acc.reverse, e⟩
    if src.size < p + 3 then done .needInput
    else
      let bh := readLE src p 3
      let last := bh % 2 = 1
      let type := (bh / 2) % 4
      let size := bh / 8
      let csize := if type = 1 then 1 else size
      if type = 3 then done (.fault .corruption)
      else if csize > bsm then done (.fault .corruption)
      else if csize = 0 then
        if last then done (frameEnd src h r.ctx.out (p + 3))
        else streamBlocks src h ringSize r (p + 3) acc fuel
      else
        let cap := ringSize - r.start
        -- a block not written right after the last one starts a new contiguous part,
        -- and matches may then reach back only into the part before it
        let ctx := r.ctx
        let (ctx, prefixAt) :=
          if cap > 0 ∧ r.lastEnd ≠ some r.start then
            ({ ctx with reach := if r.lastEnd.isSome then r.prefixAt else ctx.out.size },
              ctx.out.size)
          else (ctx, r.prefixAt)
        let body := p + 3
        let avail := src.size - body
        let decoded : Except Fault (Ctx × Bool) :=
          if type = 0 then
            let n := min size avail
            if n = 0 then .ok (ctx, false)
            else if n > cap then .error .dstTooSmall
            else .ok ({ ctx with out := ctx.out ++ src.extract body (body + n) }, n = size)
          else if type = 1 then
            if avail < 1 then .ok (ctx, false)
            else if size > cap then .error .dstTooSmall
            else
              .ok ({ ctx with out := ctx.out ++ ByteArray.mk (Array.replicate size (byteAt src body).toUInt8) },
                true)
          else if avail < size then .ok (ctx, false)
          else (compressedBlock ctx src body size bsm cap false).map (·, true)
        match decoded with
        | .error f => done (.fault f)
        | .ok (ctx', whole) =>
          let made := ctx'.out.size - ctx.out.size
          let chunk := ctx'.out.extract ctx.out.size ctx'.out.size
          if made > bsm then done (.fault .corruption)
          else if !whole then
            ⟨(if made > 0 then chunk :: acc else acc).reverse, .needInput⟩
          else if last ∧ h.contentSize.any (· != ctx'.out.size) then
            done (.fault .corruption)
          else
            let acc := if made > 0 then chunk :: acc else acc
            let next := body + csize
            if last then ⟨acc.reverse, frameEnd src h ctx'.out next⟩
            else
              -- after handing out a block, the ring starts over when the next block
              -- might not fit after it
              let start := r.start + made
              let unbounded := h.contentSize.all (fun c => decide (ringSize < c))
              let start := if made > 0 ∧ unbounded ∧ start + bsm > ringSize then 0 else start
              let lastEnd := if made > 0 then some (r.start + made) else r.lastEnd
              streamBlocks src h ringSize ⟨ctx', start, lastEnd, prefixAt⟩ next acc fuel

/-- The sizes of the streaming decoder's input and output buffers, which outlive the frame
that set them, and for how many frame headers in a row they have been far larger than
those frames needed. -/
structure Buffers where
  input : Nat
  output : Nat
  idle : Nat
  deriving Inhabited

/-- The buffers after a frame header that needs `needIn` bytes of input buffer and
`needOut` of output buffer. -/
def Buffers.adapt (b : Buffers) (needIn needOut : Nat) : Buffers :=
  let idle := if b.input + b.output ≥ (needIn + needOut) * 3 then b.idle + 1 else 0
  if b.input < needIn ∨ b.output < needOut ∨ idle ≥ 128 then ⟨needIn, needOut, idle⟩
  else { b with idle }

/-- The output buffer a frame needs: a window, room for two blocks and some slack, but
never more than the frame's content. -/
def ringNeed (window blockMax : Nat) (content : Option Nat) : Nat :=
  let full := window + 2 * blockMax + 64
  match content with
  | some c => min c full
  | none => full

/-- Decodes a frame block by block, after the checks the streaming decoder makes on its
header: no dictionary, and a window it accepts. -/
def streamFrame (src : ByteArray) (pos : Nat) (h : Header) (bufs : Buffers) : Steps × Buffers :=
  if h.dictId ≠ 0 then (⟨[], .fault .dictionary⟩, bufs)
  else
    let window := max h.windowSize 1024
    if window > windowLimit then (⟨[], .fault .windowTooLarge⟩, bufs)
    else
      let bufs := bufs.adapt (max h.blockMax 4) (ringNeed window h.blockMax h.contentSize)
      (streamBlocks src h bufs.output ⟨Ctx.initial, 0, none, 0⟩ (pos + h.size) [] (src.size + 1),
        bufs)

/-- Decodes a whole frame in one go into a buffer of `room` bytes: its output, or the
fault that stops it. -/
def wholeFrame (src : ByteArray) (pos : Nat) (h : Header) (room : Nat) : Except Fault (ByteArray × Nat) :=
  if h.dictId ≠ 0 then .error .dictionary
  else
    let bsm := h.blockMax
    let rec go (ctx : Ctx) (p : Nat) : Nat → Except Fault (Ctx × Nat)
      | 0 => .error .srcSize
      | fuel + 1 => do
        let bh := readLE src p 3
        let last := bh % 2 = 1
        let type := (bh / 2) % 4
        let size := bh / 8
        if type = 3 then throw .corruption
        let cap := room - ctx.out.size
        let body := p + 3
        let ctx ← if type = 0 then
            if size > cap then throw .dstTooSmall
            else pure { ctx with out := ctx.out ++ src.extract body (body + size) }
          else if type = 1 then
            if size > cap then throw .dstTooSmall
            else pure { ctx with out := ctx.out ++ ByteArray.mk (Array.replicate size (byteAt src body).toUInt8) }
          else compressedBlock ctx src body size bsm cap true
        let next := body + (if type = 1 then 1 else size)
        if last then pure (ctx, next) else go ctx next fuel
    match go Ctx.initial (pos + h.size) (src.size + 1) with
    | .error f => .error f
    | .ok (ctx, p) =>
      if h.contentSize.any (· != ctx.out.size) then .error .corruption
      else if h.checksum ∧ readLE src p 4 ≠ Hash.checksum ctx.out then .error .checksum
      else .ok (ctx.out, p + (if h.checksum then 4 else 0))

/-- The steps of the frame at `pos` when the reader has `room` bytes of buffer left, and
the decoder's buffers after it. -/
def frameSteps (src : ByteArray) (pos room : Nat) (bufs : Buffers) : Steps × Buffers :=
  match frameStart src pos with
  | .needMore => (⟨[], .needInput⟩, bufs)
  | .fault f => (⟨[], .fault f⟩, bufs)
  | .skippable size =>
    let bufs := bufs.adapt 4 (ringNeed 1024 0 (some size))
    if src.size < pos + 8 + size then (⟨[], .needInput⟩, bufs) else (⟨[], .done (pos + 8 + size)⟩, bufs)
  | .zstd h =>
    let whole := match h.contentSize, frameLength src pos h with
      | some c, some _ => decide (c ≤ room)
      | _, _ => false
    if whole then
      match wholeFrame src pos h room with
      | .ok (out, next) => (⟨if out.size > 0 then [out] else [], .done next⟩, bufs)
      | .error f => (⟨[], .fault f⟩, bufs)
    else streamFrame src pos h bufs

/-- A zstd stream being read: its bytes, where the next frame starts, output decoded but
not handed out, the later outputs and ending of the frame under way (none between
frames), whether the last frame ended cleanly, whether the end was reported, and the
decoder's buffers. -/
structure Stream where
  src : ByteArray
  pos : Nat
  pending : ByteArray
  chunks : List ByteArray
  ending : Option Ending
  finished : Bool
  atEnd : Bool
  buffers : Buffers
  deriving Inhabited

/-- A stream over some bytes, nothing read yet and no buffers made. -/
def Stream.ofBytes (src : ByteArray) : Stream :=
  ⟨src, 0, ByteArray.empty, [], none, false, false, ⟨0, 0, 0⟩⟩

/-- Why a decoding run stopped without a fault. -/
inductive Pause where
  /-- The buffer is full. -/
  | full
  /-- A frame ended. -/
  | frameEnded
  /-- Nothing more can be decoded from the input. -/
  | noInput

/-- One decoding run of a call with `room` bytes of buffer: hands out decoded output and
decodes further until the buffer is full, a frame ends, the input is used up, or a fault
stops it. -/
def Stream.run (st : Stream) (room : Nat) (out : ByteArray) : Nat → Except Fault (ByteArray × Stream × Pause)
  | 0 => pure (out, st, .noInput)
  | fuel + 1 =>
    let k := min st.pending.size (room - out.size)
    let out := out ++ st.pending.extract 0 k
    let st := { st with pending := st.pending.extract k st.pending.size }
    if st.pending.size > 0 then pure (out, st, .full)
    else
      match st.ending with
      | none =>
        if st.pos ≥ st.src.size then pure (out, st, .noInput)
        else
          let (steps, buffers) := frameSteps st.src st.pos (room - out.size) st.buffers
          Stream.run
            { st with chunks := steps.chunks, ending := some steps.ending, finished := false, buffers }
            room out fuel
      | some e =>
        match st.chunks with
        | c :: rest => Stream.run { st with pending := c, chunks := rest } room out fuel
        | [] =>
          match e with
          | .fault f => throw f
          | .needInput => pure (out, st, .noInput)
          | .done next => pure (out, { st with pos := next, ending := none, finished := true }, .frameEnded)

/-- One read call asking for up to `n ≥ 1` bytes: answers the bytes, empty at the end of
the stream. -/
def Stream.read (st : Stream) (n : Nat) : Except Fault (ByteArray × Stream) :=
  if st.atEnd then pure (ByteArray.empty, st)
  else
    let k := min st.pending.size n
    if k > 0 then
      pure (st.pending.extract 0 k, { st with pending := st.pending.extract k st.pending.size })
    else
      let rec go (st : Stream) : Nat → Except Fault (ByteArray × Stream)
        | 0 => pure (ByteArray.empty, st)
        | fuel + 1 => do
          let (out, st, pause) ← st.run n ByteArray.empty (st.src.size + 4 * st.chunks.length + 8)
          if out.size > 0 then return (out, st)
          match pause with
          | .frameEnded =>
            if st.pos ≥ st.src.size then return (ByteArray.empty, { st with atEnd := true })
            else go st fuel
          | .noInput =>
            if st.finished then return (ByteArray.empty, { st with atEnd := true })
            else throw .incomplete
          | .full => return (out, st)
      go st (st.src.size + 2)

/-- Reads a whole stream with calls of `n` bytes: all its output, or the fault that
stops it. -/
def Stream.readAll (st : Stream) (n : Nat) : Except Fault ByteArray :=
  let rec go (st : Stream) (acc : ByteArray) : Nat → Except Fault ByteArray
    | 0 => pure acc
    | fuel + 1 => do
      let (b, st) ← st.read n
      if b.size = 0 then pure acc else go st (acc ++ b) fuel
  go st ByteArray.empty (st.src.size * 1024 + 16)

end JobFlow.Zstd
