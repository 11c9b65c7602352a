/-!
# Bytes and bits of zstd data

Little-endian numbers, and the backward bit stream that entropy-coded zstd data is read
from.
-/

namespace JobFlow.Zstd

/-- The byte at `i`, zero past the end. -/
def byteAt (b : ByteArray) (i : Nat) : Nat := (b[i]?.getD 0).toNat

/-- The little-endian number in the `n` bytes of `b` from `i`; bytes past the end count
as zero. -/
def readLE (b : ByteArray) (i n : Nat) : Nat :=
  (List.range n).foldr (fun k acc => byteAt b (i + k) + 256 * acc) 0

/-- The little-endian bytes of `n`, `width` of them. -/
def leBytes (n : Nat) : Nat → List UInt8
  | 0 => []
  | w + 1 => (n % 256).toUInt8 :: leBytes (n / 256) w

/-- The number whose little-endian bytes are given. -/
def leValue : List UInt8 → Nat
  | [] => 0
  | b :: bs => b.toNat + 256 * leValue bs

/-- The index of the highest set bit of a positive number. -/
def highBit (n : Nat) : Nat := n.log2

/-- How far a backward stream has been read, as a reload reports it. -/
inductive Status where
  /-- More bytes lie below the container. -/
  | unfinished
  /-- The container holds the first byte and some of its bits are unread. -/
  | endOfBuffer
  /-- Every bit was read. -/
  | completed
  /-- More bits were read than the stream has. -/
  | overflow
  deriving DecidableEq, Repr, Inhabited

/-- A backward bit stream over the bytes `[start, start + size)` of `src`. -/
structure BackBits where
  src : ByteArray
  start : Nat
  /-- Where the container was loaded from. -/
  ptr : Nat
  container : UInt64
  /-- Bits of the container consumed, from the top; past 64 once the stream is overread. -/
  consumed : Nat
  deriving Inhabited

namespace BackBits

/-- The 64-bit container loaded from `i`. -/
def load (src : ByteArray) (i : Nat) : UInt64 := UInt64.ofNat (readLE src i 8)

/-- A stream over `size` bytes from `start`: none when it is empty or its last byte,
which holds the marker, is zero. -/
def init (src : ByteArray) (start size : Nat) : Option BackBits :=
  if size = 0 then none
  else
    let last := byteAt src (start + size - 1)
    if last = 0 then none
    else
      let pad := 8 - highBit last
      if size ≥ 8 then
        some ⟨src, start, start + size - 8, load src (start + size - 8), pad⟩
      else
        some ⟨src, start, start, UInt64.ofNat (readLE src start size), pad + (8 - size) * 8⟩

/-- Refills the container: moves it down by the whole bytes consumed, not below the
first byte, and reports the status. -/
def reload (d : BackBits) : BackBits × Status :=
  if d.consumed > 64 then (d, .overflow)
  else if d.ptr ≥ d.start + 8 then
    let ptr := d.ptr - d.consumed / 8
    ({ d with ptr, consumed := d.consumed % 8, container := load d.src ptr }, .unfinished)
  else if d.ptr = d.start then
    (d, if d.consumed < 64 then .endOfBuffer else .completed)
  else
    let want := d.consumed / 8
    let (n, st) := if d.ptr < d.start + want then (d.ptr - d.start, Status.endOfBuffer)
      else (want, Status.unfinished)
    let ptr := d.ptr - n
    ({ d with ptr, consumed := d.consumed - n * 8, container := load d.src ptr }, st)

/-- The next `n` bits (`n < 64`) taken as a field of the container; once fewer than `n`
bits are left the field's position wraps around the container. -/
def look (d : BackBits) (n : Nat) : Nat :=
  let shift := ((64 - (d.consumed : Int) - n) % 64).toNat
  ((d.container >>> shift.toUInt64) &&& ((1 <<< n.toUInt64) - 1)).toNat

/-- The next `n` bits (`1 ≤ n < 64`) shifted up from the container; once fewer than `n`
bits are left, zeros come in below them. -/
def lookFast (d : BackBits) (n : Nat) : Nat :=
  ((d.container <<< (d.consumed % 64).toUInt64) >>> ((64 - n) % 64).toUInt64).toNat

/-- Marks `n` bits consumed. -/
def skip (d : BackBits) (n : Nat) : BackBits := { d with consumed := d.consumed + n }

/-- Reads `n` bits as `look` sees them. -/
def read (d : BackBits) (n : Nat) : Nat × BackBits := (d.look n, d.skip n)

/-- Reads `n ≥ 1` bits as `lookFast` sees them. -/
def readFast (d : BackBits) (n : Nat) : Nat × BackBits := (d.lookFast n, d.skip n)

/-- Whether the stream was read exactly to its beginning. -/
def finished (d : BackBits) : Bool := d.ptr = d.start && d.consumed = 64

end BackBits

end JobFlow.Zstd
