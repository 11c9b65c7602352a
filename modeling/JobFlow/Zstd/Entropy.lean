import JobFlow.Zstd.Bits

/-!
# Entropy tables of zstd

Finite state entropy (FSE) and Huffman coding as zstd uses them.
-/

namespace JobFlow.Zstd

/-! ## Normalized counts -/

/-- The number of trailing one bits of a 32-bit value, at most 31. -/
def trailingOnes (v : Nat) : Nat :=
  let rec go (v k : Nat) : Nat → Nat
    | 0 => k
    | fuel + 1 => if k < 31 ∧ v % 2 = 1 then go (v / 2) (k + 1) fuel else k
  go v 0 32

/-- The state of the count reader: the byte position, the bit offset in it, and the
32 bits loaded there shifted down by that offset. -/
structure CountCursor where
  ip : Nat
  bitCount : Int
  bitStream : Nat

/-- The 32 bits at `ip` shifted down by `bitCount`. -/
def loadAt (buf : ByteArray) (ip : Nat) (bitCount : Int) : Nat :=
  readLE buf ip 4 / Nat.pow 2 (bitCount % 32).toNat

/-- Moves the cursor forward by the whole bytes read; near the end of the buffer the
position stays four bytes before the end and the offset grows instead, wrapped to 32. -/
def advance (buf : ByteArray) (iend : Nat) (ip : Nat) (bitCount : Int) : CountCursor :=
  if ip + 7 ≤ iend ∨ ip + (bitCount / 8).toNat + 4 ≤ iend then
    let ip := ip + (bitCount / 8).toNat
    let bc := bitCount % 8
    ⟨ip, bc, loadAt buf ip bc⟩
  else
    let bc := (bitCount - 8 * ((iend : Int) - 4 - ip)) % 32
    ⟨iend - 4, bc, loadAt buf (iend - 4) bc⟩

/-- What reading counts gives: the counts, the largest symbol, the table log and the
bytes read. -/
structure Counts where
  norm : Array Int
  maxSymbol : Nat
  tableLog : Nat
  size : Nat
  deriving Inhabited

/-- The state of reading counts: the cursor, the counts so far, the next symbol, the
probability left to give out, the current threshold and field width, and whether the
last count was zero. -/
structure CountState where
  cur : CountCursor
  norm : Array Int
  charnum : Nat
  remaining : Int
  threshold : Nat
  nbBits : Nat
  prev0 : Bool

/-- Passes over runs of three zero counts (two bits `11` each), twelve runs at a time
while they last, then the final run of fewer than three; answers the cursor and the next
symbol, with the offset not yet moved to a byte. -/
def zeroRuns (buf : ByteArray) (iend : Nat) (cur : CountCursor) (charnum : Nat) :
    CountCursor × Nat :=
  let rec longRuns (cur : CountCursor) (charnum : Nat) : Nat → CountCursor × Nat
    | 0 => (cur, charnum)
    | f + 1 =>
      if trailingOnes cur.bitStream / 2 ≥ 12 then
        let cur :=
          if cur.ip + 7 ≤ iend then
            ⟨cur.ip + 3, cur.bitCount, loadAt buf (cur.ip + 3) cur.bitCount⟩
          else
            let bc := (cur.bitCount - 8 * ((iend : Int) - 7 - cur.ip)) % 32
            ⟨iend - 4, bc, loadAt buf (iend - 4) bc⟩
        longRuns cur (charnum + 36) f
      else (cur, charnum)
  let (cur, charnum) := longRuns cur charnum (iend + 2)
  let repeats := trailingOnes cur.bitStream / 2
  let bs := cur.bitStream / Nat.pow 2 (2 * repeats)
  (⟨cur.ip, cur.bitCount + 2 * repeats + 2, bs⟩, charnum + 3 * repeats + bs % 4)

/-- Reads counts until the probability is given out or the symbols run out; answers the
state at that point. -/
def countLoop (buf : ByteArray) (iend maxSV1 : Nat) : CountState → Nat → CountState
  | st, 0 => st
  | st, fuel + 1 =>
    -- after a zero count, runs of zeros come first
    let next : Option CountState :=
      if !st.prev0 then some st
      else
        let (cur, charnum) := zeroRuns buf iend st.cur st.charnum
        if charnum ≥ maxSV1 then none
        else some { st with cur := advance buf iend cur.ip cur.bitCount, charnum }
    match next with
    | none =>
      let (cur, charnum) := zeroRuns buf iend st.cur st.charnum
      { st with cur, charnum }
    | some st =>
      let cur := st.cur
      let t := st.threshold
      let max : Int := 2 * (t : Int) - 1 - st.remaining
      let low := cur.bitStream % t
      let (count, bc) : Int × Int :=
        if (low : Int) < max then (low, cur.bitCount + st.nbBits - 1)
        else
          let c : Int := cur.bitStream % (2 * t)
          ((if c ≥ t then c - max else c), cur.bitCount + st.nbBits)
      let count := count - 1
      let remaining := if count ≥ 0 then st.remaining - count else st.remaining + count
      let norm := st.norm.set! st.charnum count
      let charnum := st.charnum + 1
      let cur := { cur with bitCount := bc }
      let st := { st with cur, norm, charnum, remaining, prev0 := count = 0 }
      if remaining < t then
        if remaining ≤ 1 then st
        else
          let nb := highBit remaining.toNat + 1
          let st := { st with nbBits := nb, threshold := Nat.pow 2 (nb - 1) }
          if charnum ≥ maxSV1 then st
          else countLoop buf iend maxSV1 { st with cur := advance buf iend cur.ip bc } fuel
      else if charnum ≥ maxSV1 then st
      else countLoop buf iend maxSV1 { st with cur := advance buf iend cur.ip bc } fuel

/-- Reads normalized counts from a buffer of at least eight bytes, `maxSV` the largest
symbol allowed. -/
def readCountsWide (buf : ByteArray) (maxSV : Nat) : Option Counts :=
  let iend := buf.size
  let first := readLE buf 0 4
  let log := first % 16 + 5
  if log > 15 then none
  else
    let maxSV1 := maxSV + 1
    let t := Nat.pow 2 log
    let st0 : CountState :=
      ⟨⟨0, 4, first / 16⟩, Array.replicate maxSV1 0, 0, t + 1, t, log + 1, false⟩
    let st := countLoop buf iend maxSV1 st0 (iend * 8 + 600)
    if st.remaining ≠ 1 then none
    else if st.charnum > maxSV1 then none
    else if st.cur.bitCount > 32 then none
    else some ⟨st.norm, st.charnum - 1, log, st.cur.ip + ((st.cur.bitCount + 7) / 8).toNat⟩

/-- Reads normalized counts from `size` bytes of `src` at `off`; a short buffer is read as
if padded with zeros to eight bytes, and must not be read past its end. -/
def readCounts (src : ByteArray) (off size maxSV : Nat) : Option Counts :=
  let buf := src.extract off (off + size)
  if size < 8 then
    let padded := buf ++ ByteArray.mk (Array.replicate (8 - size) 0)
    match readCountsWide padded maxSV with
    | some c => if c.size > size then none else some c
    | none => none
  else readCountsWide buf maxSV

/-! ## FSE decoding tables -/

/-- One slot of a decoding table. -/
structure Slot where
  symbol : Nat
  nbBits : Nat
  baseline : Nat
  deriving Inhabited, Repr

/-- A decoding table: its log, its slots, and whether every slot reads at least one bit. -/
structure FseTable where
  log : Nat
  slots : Array Slot
  fast : Bool
  deriving Inhabited

/-- The step between the slots a symbol is spread to. -/
def tableStep (size : Nat) : Nat := size / 2 + size / 8 + 3

/-- The decoding table of normalized counts for symbols `0..maxSV`. -/
def buildFse (norm : Array Int) (maxSV log : Nat) : FseTable :=
  let size := Nat.pow 2 log
  let mask := size - 1
  let step := tableStep size
  let counts : List Int := (List.range (maxSV + 1)).map (fun s => norm[s]?.getD 0)
  -- symbols of less than one slot take the last slots, in order from the end
  let (syms, high, _) := counts.foldl (fun (acc : Array Nat × Nat × Nat) (c : Int) =>
    let (syms, high, s) := acc
    if c = -1 then (syms.set! high s, high - 1, s + 1) else (syms, high, s + 1))
    (Array.replicate size 0, size - 1, 0)
  let fast := counts.all (fun c => c < (Nat.pow 2 (log - 1) : Int))
  let rec place (syms : Array Nat) (pos : Nat) (s : Nat) : Nat → Nat → Array Nat × Nat
    | 0, _ => (syms, pos)
    | _, 0 => (syms, pos)
    | k + 1, fuel + 1 =>
      let syms := syms.set! pos s
      let rec next (p : Nat) : Nat → Nat
        | 0 => p
        | f + 1 => if p > high then next ((p + step) &&& mask) f else p
      place syms (next ((pos + step) &&& mask) (size + 1)) s k fuel
  let (syms, _, _) := counts.foldl (fun (acc : Array Nat × Nat × Nat) (c : Int) =>
    let (syms, pos, s) := acc
    let n := if c > 0 then c.toNat else 0
    let (syms, pos) := place syms pos s n (n + 1)
    (syms, pos, s + 1)) (syms, 0, 0)
  let next0 : Array Nat := (counts.map (fun c => if c = -1 then 1 else c.toNat)).toArray
  let (slots, _) := (List.range size).foldl (fun (acc : Array Slot × Array Nat) u =>
    let (slots, next) := acc
    let s := syms[u]!
    let ns := next[s]!
    let nb := log - highBit ns
    (slots.push ⟨s, nb, ns * Nat.pow 2 nb - size⟩, next.set! s (ns + 1)))
    (#[], next0)
  ⟨log, slots, fast⟩

/-! ## FSE-coded Huffman weights -/

/-- Decodes one symbol from a state: the slot's symbol, and the state moved by the bits
the slot reads. -/
def fseSymbol (t : FseTable) (state : Nat) (d : BackBits) : Nat × Nat × BackBits :=
  let slot := t.slots[state]?.getD default
  let (bits, d) := if t.fast then d.readFast slot.nbBits else d.read slot.nbBits
  (slot.symbol, slot.baseline + bits, d)

/-- Decodes an FSE stream with two interleaved states into at most `cap` symbols: the
states take turns until the stream is overread, and then the other state gives one
last symbol. -/
def fseDecode (t : FseTable) (src : ByteArray) (off size cap : Nat) : Option (Array Nat) := do
  let d ← BackBits.init src off size
  let (s1, d) := d.read t.log
  let (d, _) := d.reload
  let (s2, d) := d.read t.log
  let (d, _) := d.reload
  let (d, st) := d.reload
  if st = .overflow then none
  -- four symbols at a time while the container refills fully
  let rec fourWise (out : Array Nat) (s1 s2 : Nat) (d : BackBits) : Nat → Array Nat × Nat × Nat × BackBits
    | 0 => (out, s1, s2, d)
    | fuel + 1 =>
      let (d, st) := d.reload
      if st = .unfinished ∧ out.size + 3 < cap then
        let (a, s1, d) := fseSymbol t s1 d
        let (b, s2, d) := fseSymbol t s2 d
        let (c, s1, d) := fseSymbol t s1 d
        let (e, s2, d) := fseSymbol t s2 d
        fourWise (((out.push a).push b).push c |>.push e) s1 s2 d fuel
      else (out, s1, s2, d)
  let (out, s1, s2, d) := fourWise #[] s1 s2 d (cap + 1)
  -- one at a time, alternating, until the stream is overread
  let rec tail (out : Array Nat) (cur other : Nat) (d : BackBits) : Nat → Option (Array Nat)
    | 0 => none
    | fuel + 1 =>
      if out.size + 2 > cap then none
      else
        let (a, cur, d) := fseSymbol t cur d
        let out := out.push a
        let (d, st) := d.reload
        if st = .overflow then
          let (b, _, _) := fseSymbol t other d
          some (out.push b)
        else tail out other cur d fuel
  tail out s1 s2 d (cap + 1)

/-! ## Huffman tables -/

/-- A Huffman decoding table: its log and, for every value of that many bits, the symbol
and the length of its code. -/
structure HufTable where
  log : Nat
  entries : Array (UInt8 × Nat)
  deriving Inhabited

/-- Reads the weights of a Huffman table from the `size` bytes at `off`: the table and the
bytes read. -/
def readHuffman (src : ByteArray) (off size : Nat) : Option (HufTable × Nat) := do
  if size = 0 then none
  let head := byteAt src off
  let (weights, used) ← if head ≥ 128 then do
      let count := head - 127
      let bytes := (count + 1) / 2
      if bytes + 1 > size then none
      if count ≥ 256 then none
      let ws := (List.range count).map (fun n =>
        let b := byteAt src (off + 1 + n / 2)
        if n % 2 = 0 then b / 16 else b % 16)
      pure (ws.toArray, bytes + 1)
    else do
      if head + 1 > size then none
      let counts ← readCounts src (off + 1) head 255
      if counts.tableLog > 6 then none
      let t := buildFse counts.norm counts.maxSymbol counts.tableLog
      let ws ← fseDecode t src (off + 1 + counts.size) (head - counts.size) 255
      pure (ws, head + 1)
  if weights.any (· > 12) then none
  let total := weights.foldl (fun acc w => acc + Nat.pow 2 w / 2) 0
  if total = 0 then none
  let log := highBit total + 1
  if log > 12 then none
  let rest := Nat.pow 2 log - total
  if Nat.pow 2 (highBit rest) ≠ rest then none
  let weights := weights.push (highBit rest + 1)
  let ones := (weights.toList.filter (· = 1)).length
  if ones < 2 ∨ ones % 2 = 1 then none
  -- codes: weights from 1 up, symbols in order within a weight
  let entries := (List.range log).foldl (fun (acc : Array (UInt8 × Nat)) w0 =>
    let w := w0 + 1
    (List.range weights.size).foldl (fun acc n =>
      if weights[n]! = w then
        acc ++ Array.replicate (Nat.pow 2 (w - 1)) (n.toUInt8, log + 1 - w)
      else acc) acc) #[]
  pure (⟨log, entries⟩, used)

/-- Decodes `count` symbols from a Huffman stream, four at a time while the container
refills fully and then one at a time without refilling. -/
def hufStream (t : HufTable) (d : BackBits) (count : Nat) : ByteArray × BackBits :=
  let sym (d : BackBits) : UInt8 × BackBits :=
    let (s, nb) := t.entries[d.lookFast t.log]?.getD (0, 0)
    (s, d.skip nb)
  let rec fourWise (out : ByteArray) (d : BackBits) : Nat → ByteArray × BackBits
    | 0 => (out, d)
    | fuel + 1 =>
      let (d, st) := d.reload
      if st = .unfinished ∧ out.size + 3 < count then
        let (a, d) := sym d
        let (b, d) := sym d
        let (c, d) := sym d
        let (e, d) := sym d
        fourWise ((((out.push a).push b).push c).push e) d fuel
      else (out, d)
  let (out, d) :=
    if count > 3 then fourWise ByteArray.empty d (count + 1)
    else (ByteArray.empty, (d.reload).1)
  let rec rest (out : ByteArray) (d : BackBits) : Nat → ByteArray × BackBits
    | 0 => (out, d)
    | fuel + 1 =>
      if out.size < count then
        let (a, d) := sym d
        rest (out.push a) d fuel
      else (out, d)
  rest out d (count + 1)

/-- Decodes one Huffman stream of `size` bytes at `off` into `count` symbols, which must
use the stream exactly. -/
def hufOne (t : HufTable) (src : ByteArray) (off size count : Nat) : Option ByteArray := do
  let d ← BackBits.init src off size
  let (out, d) := hufStream t d count
  if d.finished then some out else none

/-- Decodes four Huffman streams, described by a jump table of three sizes, into `count`
symbols split in four nearly equal segments. -/
def hufFour (t : HufTable) (src : ByteArray) (off size count : Nat) : Option ByteArray := do
  if size < 10 then none
  if count < 6 then none
  let l1 := readLE src off 2
  let l2 := readLE src (off + 2) 2
  let l3 := readLE src (off + 4) 2
  if l1 + l2 + l3 + 6 > size then none
  let l4 := size - (l1 + l2 + l3 + 6)
  let seg := (count + 3) / 4
  if 3 * seg > count then none
  let s1 := off + 6
  let d1 ← BackBits.init src s1 l1
  let d2 ← BackBits.init src (s1 + l1) l2
  let d3 ← BackBits.init src (s1 + l1 + l2) l3
  let d4 ← BackBits.init src (s1 + l1 + l2 + l3) l4
  let (o1, d1) := hufStream t d1 seg
  let (o2, d2) := hufStream t d2 seg
  let (o3, d3) := hufStream t d3 seg
  let (o4, d4) := hufStream t d4 (count - 3 * seg)
  if d1.finished ∧ d2.finished ∧ d3.finished ∧ d4.finished then some (o1 ++ o2 ++ o3 ++ o4)
  else none

end JobFlow.Zstd
