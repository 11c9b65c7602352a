/-!
# Reading bytes as text

Bytes that are not all UTF-8 are read with each broken sequence replaced by U+FFFD.
-/

namespace JobFlow

namespace Utf8

/-- The allowed range of the second byte after a leading byte, and the number of bytes
that follow the leading byte; `none` for a byte that starts no sequence. -/
def shape (b : UInt8) : Option (UInt8 × UInt8 × Nat) :=
  let n := b.toNat
  if n < 0xC2 then none
  else if n ≤ 0xDF then some (0x80, 0xBF, 1)
  else if n = 0xE0 then some (0xA0, 0xBF, 2)
  else if n = 0xED then some (0x80, 0x9F, 2)
  else if n ≤ 0xEF then some (0x80, 0xBF, 2)
  else if n = 0xF0 then some (0x90, 0xBF, 3)
  else if n ≤ 0xF3 then some (0x80, 0xBF, 3)
  else if n = 0xF4 then some (0x80, 0x8F, 3)
  else none

/-- The code point of a well-formed sequence. -/
def codePoint (lead : UInt8) (tail : List UInt8) : Nat :=
  let first := match tail.length with
    | 1 => lead.toNat % 0x20
    | 2 => lead.toNat % 0x10
    | _ => lead.toNat % 0x08
  tail.foldl (fun acc b => acc * 64 + b.toNat % 64) first

/-- How many of the bytes after a leading byte continue its sequence, up to `need`: the
first within `lo..hi`, the others within `0x80..0xBF`. -/
def matched (lo hi : UInt8) (need : Nat) (bs : List UInt8) : Nat :=
  match need, bs with
  | 0, _ => 0
  | _, [] => 0
  | k + 1, b :: rest =>
    if lo ≤ b ∧ b ≤ hi then 1 + matched 0x80 0xBF k rest else 0

/-- The characters of a byte list, one U+FFFD for each broken sequence. -/
def lossyChars : List UInt8 → List Char
  | [] => []
  | b :: rest =>
    if b.toNat < 0x80 then Char.ofNat b.toNat :: lossyChars rest
    else
      match shape b with
      | none => '�' :: lossyChars rest
      | some (lo, hi, need) =>
        let k := matched lo hi need rest
        if k = need then
          Char.ofNat (codePoint b (rest.take need)) :: lossyChars (rest.drop need)
        else '�' :: lossyChars (rest.drop k)
termination_by bs => bs.length
decreasing_by
  all_goals simp only [List.length_cons, List.length_drop]
  all_goals omega

/-- The text of some bytes, each broken sequence replaced by U+FFFD. -/
def lossy (data : ByteArray) : String := String.ofList (lossyChars data.toList)

end Utf8

end JobFlow
