import JobFlow.Zstd.Frame

/-!
# zstd frames

Packed working directories and large record values are zstd frames.
-/

namespace JobFlow

namespace Zstd

/-- The header of a block: last flag, type and size. -/
def blockHeader (last : Bool) (type size : Nat) : List UInt8 :=
  leBytes ((if last then 1 else 0) + 2 * type + 8 * size) 3

/-- Raw blocks holding `data`, the last one flagged. -/
def rawBlocks (data : List UInt8) : List UInt8 :=
  let rec go (rest : List UInt8) (fuel : Nat) : List UInt8 :=
    match fuel with
    | 0 => blockHeader true 0 0
    | fuel + 1 =>
      if rest.length ≤ blockLimit then blockHeader true 0 rest.length ++ rest
      else blockHeader false 0 blockLimit ++ rest.take blockLimit ++ go (rest.drop blockLimit) fuel
  go data (data.length / blockLimit + 1)

/-- A frame holding `data`: the magic, a header with a window of 1 MiB and no content
size, then raw blocks. -/
def compress (data : List UInt8) : List UInt8 :=
  magic ++ [0x00, 0x50] ++ rawBlocks data

/-- The buffer a whole value is copied through. -/
def copyBuffer : Nat := 8192

/-- Decodes a whole stream: its content, or the fault that stops it. -/
def decodeAll (input : ByteArray) : Except Fault ByteArray :=
  (Stream.ofBytes input).readAll copyBuffer

end Zstd

end JobFlow
