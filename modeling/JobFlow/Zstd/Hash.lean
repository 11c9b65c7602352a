import JobFlow.Zstd.Bits

/-!
# The frame checksum

A zstd frame may end with the low 32 bits of the XXH64 hash (seed 0) of its content.
-/

namespace JobFlow.Zstd.Hash

/-- The first prime of the hash. -/
def p1 : UInt64 := 0x9E3779B185EBCA87
/-- The second prime of the hash. -/
def p2 : UInt64 := 0xC2B2AE3D27D4EB4F
/-- The third prime of the hash. -/
def p3 : UInt64 := 0x165667B19E3779F9
/-- The fourth prime of the hash. -/
def p4 : UInt64 := 0x85EBCA77C2B2AE63
/-- The fifth prime of the hash. -/
def p5 : UInt64 := 0x27D4EB2F165667C5

/-- Rotation to the left by `r` bits, `0 < r < 64`. -/
def rotl (x : UInt64) (r : UInt64) : UInt64 := (x <<< r) ||| (x >>> (64 - r))

/-- One accumulator step over an 8-byte lane. -/
def step (acc lane : UInt64) : UInt64 := rotl (acc + lane * p2) 31 * p1

/-- Merging an accumulator into the hash. -/
def merge (h acc : UInt64) : UInt64 := (h ^^^ step 0 acc) * p1 + p4

/-- The 8-byte lane at `i`. -/
def lane (b : ByteArray) (i : Nat) : UInt64 := UInt64.ofNat (readLE b i 8)

/-- The four accumulators after the stripes from `i`, and the index after them. -/
def stripes (b : ByteArray) (v1 v2 v3 v4 : UInt64) (i : Nat) :
    Nat → UInt64 × UInt64 × UInt64 × UInt64 × Nat
  | 0 => (v1, v2, v3, v4, i)
  | fuel + 1 =>
    if i + 32 ≤ b.size then
      stripes b (step v1 (lane b i)) (step v2 (lane b (i + 8))) (step v3 (lane b (i + 16)))
        (step v4 (lane b (i + 24))) (i + 32) fuel
    else (v1, v2, v3, v4, i)

/-- Folds in the 8-byte lanes from `i`. -/
def lanes (b : ByteArray) (h : UInt64) (i : Nat) : Nat → UInt64 × Nat
  | 0 => (h, i)
  | fuel + 1 =>
    if i + 8 ≤ b.size then lanes b (rotl (h ^^^ step 0 (lane b i)) 27 * p1 + p4) (i + 8) fuel
    else (h, i)

/-- Folds in the single bytes from `i`. -/
def bytes (b : ByteArray) (h : UInt64) (i : Nat) : Nat → UInt64
  | 0 => h
  | fuel + 1 =>
    if i < b.size then
      bytes b (rotl (h ^^^ (byteAt b i).toUInt64 * p5) 11 * p1) (i + 1) fuel
    else h

/-- The XXH64 hash of some bytes, with seed 0. -/
def xxh64 (b : ByteArray) : UInt64 :=
  let (h, i) :=
    if b.size ≥ 32 then
      let (v1, v2, v3, v4, i) := stripes b (p1 + p2) p2 0 (0 - p1) 0 (b.size / 32 + 1)
      let h := rotl v1 1 + rotl v2 7 + rotl v3 12 + rotl v4 18
      (merge (merge (merge (merge h v1) v2) v3) v4, i)
    else (p5, 0)
  let h := h + b.size.toUInt64
  let (h, i) := lanes b h i (b.size / 8 + 1)
  let (h, i) :=
    if i + 4 ≤ b.size then
      (rotl (h ^^^ (UInt64.ofNat (readLE b i 4)) * p1) 23 * p2 + p3, i + 4)
    else (h, i)
  let h := bytes b h i 8
  let h := h ^^^ (h >>> 33)
  let h := h * p2
  let h := h ^^^ (h >>> 29)
  let h := h * p3
  h ^^^ (h >>> 32)

/-- The checksum a frame of this content ends with. -/
def checksum (b : ByteArray) : Nat := (xxh64 b).toNat % Nat.pow 2 32

end JobFlow.Zstd.Hash
