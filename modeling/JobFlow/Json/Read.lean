import JobFlow.Json.Value

/-!
# Reading JSON text

A reader of JSON text given as bytes, with the error texts and positions a strict reader
reports: the line and the number of bytes read on that line when the fault was found.
-/

/-! ### Nearest doubles

The double nearest to an exact fraction `n / d`: the fraction is brought to a 53-bit
significand `q` and a binary exponent `k` by exact division, the remainder decides the
rounding (ties to the even significand), and `q · 2^k` is then representable, so building
it loses nothing.
-/

namespace JobFlow.Nearest

/-- The number of binary digits of `n`, `0` for `0`. -/
def bitLength (n : Nat) : Nat := if n = 0 then 0 else n.log2 + 1

/-- The quotient and remainder of `n / (d · 2^k)`, and the divisor used, for any sign of
`k`. -/
def divScaled (n d : Nat) (k : Int) : Nat × Nat × Nat :=
  let (num, den) := if 0 ≤ k then (n, d * Nat.pow 2 k.toNat) else (n * Nat.pow 2 (-k).toNat, d)
  (num / den, num % den, den)

/-- The quotient rounded to nearest, ties to even, given its remainder and divisor. -/
def roundHalfEven (q r den : Nat) : Nat :=
  if 2 * r > den ∨ (2 * r = den ∧ q % 2 = 1) then q + 1 else q

/-- The double `q · 2^k` for a significand of at most 53 bits; exact when it is a double. -/
def build (q : Nat) (k : Int) : Float := Float.scaleB q.toUInt64.toFloat k

/-- The double nearest to `n / d` (`d > 0`), ties to the even significand; a fraction
beyond the largest double is infinite. -/
def ofRatio (n d : Nat) : Float :=
  if n = 0 ∨ d = 0 then 0 else
    -- `n / d / 2^k0` lies strictly between `2^52` and `2^54`
    let k0 : Int := (bitLength n : Int) - bitLength d - 53
    let k1 : Int := if (divScaled n d k0).1 ≥ Nat.pow 2 53 then k0 + 1 else k0
    let k : Int := max k1 (-1074)
    let (q, r, den) := divScaled n d k
    let q := roundHalfEven q r den
    let (q, k) := if q = Nat.pow 2 53 then (Nat.pow 2 52, k + 1) else (q, k)
    if k > 971 then 1 / 0 else build q k

/-- The double nearest to a natural number. -/
def ofNat (n : Nat) : Float := ofRatio n 1

/-- The number of decimal digits of `n`, `0` for `0`. -/
def decimalLength (n : Nat) : Nat := (Nat.toDigits 10 n).length

/-- The double nearest to `m · 10^e`. -/
def ofDecimal (m : Nat) (e : Int) : Float :=
  if m = 0 then 0
  else if (decimalLength m : Int) + e > 310 then 1 / 0
  else if (decimalLength m : Int) + e < -330 then 0
  else if 0 ≤ e then ofRatio (m * Nat.pow 10 e.toNat) 1
  else ofRatio m (Nat.pow 10 (-e).toNat)

end JobFlow.Nearest


namespace JobFlow

/-- A fault in JSON text, or a fault found while reading a typed value out of it, with the
position it was found at (`none` when the value was not read from text). -/
structure ReadError where
  message : String
  pos : Option (Nat × Nat) := none
  deriving Inhabited, BEq

namespace ReadError

/-- The error's text: the message, then the position if there is one. -/
def text (e : ReadError) : String :=
  match e.pos with
  | some (line, col) => s!"{e.message} at line {line} column {col}"
  | none => e.message

end ReadError

namespace Json.Reader

/-- Line and column of the byte index `i`: the column counts the bytes of the line before
`i`. -/
def positionOf (b : ByteArray) (i : Nat) : Nat × Nat :=
  let rec go (j line start : Nat) : Nat → Nat × Nat
    | 0 => (line, i - start)
    | fuel + 1 =>
      if j < i then
        if b.get! j = 10 then go (j + 1) (line + 1) (j + 1) fuel else go (j + 1) line start fuel
      else (line, i - start)
  go 0 1 0 (i + 1)

/-- A fault at the index `i`. -/
def errAt (b : ByteArray) (i : Nat) (msg : String) : ReadError :=
  ⟨msg, some (positionOf b i)⟩

/-- A fault found by looking at the byte at `i`, which counts as read. -/
def peekErr (b : ByteArray) (i : Nat) (msg : String) : ReadError :=
  errAt b (min b.size (i + 1)) msg

/-- The byte at `i`, if any. -/
def byte? (b : ByteArray) (i : Nat) : Option UInt8 :=
  if i < b.size then some (b.get! i) else none

/-- The first index at or after `i` that is not a blank. -/
def skipWs (b : ByteArray) (i : Nat) : Nat :=
  let rec go (j : Nat) : Nat → Nat
    | 0 => j
    | fuel + 1 =>
      match byte? b j with
      | some c => if c = 32 ∨ c = 10 ∨ c = 9 ∨ c = 13 then go (j + 1) fuel else j
      | none => j
  go i (b.size + 1)

/-- Whether a byte is an ASCII digit. -/
def isDigit (c : UInt8) : Bool := 48 ≤ c && c ≤ 57

/-- The value of a hexadecimal digit. -/
def hexVal (c : UInt8) : Option Nat :=
  if 48 ≤ c ∧ c ≤ 57 then some (c.toNat - 48)
  else if 97 ≤ c ∧ c ≤ 102 then some (c.toNat - 87)
  else if 65 ≤ c ∧ c ≤ 70 then some (c.toNat - 55)
  else none

/-- Four hexadecimal digits from `i`; fewer than four bytes left is the end of the string. -/
def hex4 (b : ByteArray) (i : Nat) : Except ReadError (Nat × Nat) := do
  if b.size < i + 4 then throw (errAt b b.size "EOF while parsing a string")
  match hexVal (b.get! i), hexVal (b.get! (i + 1)), hexVal (b.get! (i + 2)), hexVal (b.get! (i + 3)) with
  | some d0, some d1, some d2, some d3 => pure (((d0 * 16 + d1) * 16 + d2) * 16 + d3, i + 4)
  | _, _, _, _ => throw (errAt b (i + 4) "invalid escape")

/-- UTF-8 bytes of a code point. -/
def utf8Of (c : Char) : List UInt8 := (String.singleton c).toUTF8.toList

/-- One escape after a backslash at `i - 1`: the bytes it stands for and the next index. -/
def escape (b : ByteArray) (i : Nat) : Except ReadError (List UInt8 × Nat) :=
  match byte? b i with
  | none => throw (errAt b i "EOF while parsing a string")
  | some c =>
    if c = 34 then pure ([34], i + 1)
    else if c = 92 then pure ([92], i + 1)
    else if c = 47 then pure ([47], i + 1)
    else if c = 98 then pure ([8], i + 1)
    else if c = 102 then pure ([12], i + 1)
    else if c = 110 then pure ([10], i + 1)
    else if c = 114 then pure ([13], i + 1)
    else if c = 116 then pure ([9], i + 1)
    else if c = 117 then do
      let (n, j) ← hex4 b (i + 1)
      if 0xDC00 ≤ n ∧ n ≤ 0xDFFF then throw (errAt b j "lone leading surrogate in hex escape")
      else if 0xD800 ≤ n ∧ n ≤ 0xDBFF then
        match byte? b j with
        | none => throw (errAt b j "EOF while parsing a string")
        | some c1 =>
          if c1 ≠ 92 then throw (errAt b (j + 1) "unexpected end of hex escape")
          else match byte? b (j + 1) with
            | none => throw (errAt b (j + 1) "EOF while parsing a string")
            | some c2 =>
              if c2 ≠ 117 then throw (errAt b (j + 2) "unexpected end of hex escape")
              else do
                let (n2, k) ← hex4 b (j + 2)
                if n2 < 0xDC00 ∨ n2 > 0xDFFF then
                  throw (errAt b k "lone leading surrogate in hex escape")
                let cp := ((n - 0xD800) * 1024 + (n2 - 0xDC00)) + 0x10000
                pure (utf8Of (Char.ofNat cp), k)
      else pure (utf8Of (Char.ofNat n), j)
    else throw (errAt b (i + 1) "invalid escape")

/-- The string whose opening quote is at `i - 1`, and the index after its closing quote. -/
def string (b : ByteArray) (i : Nat) : Except ReadError (String × Nat) :=
  let rec go (j : Nat) (acc : ByteArray) : Nat → Except ReadError (String × Nat)
    | 0 => throw (errAt b b.size "EOF while parsing a string")
    | fuel + 1 =>
      match byte? b j with
      | none => throw (errAt b j "EOF while parsing a string")
      | some c =>
        if c = 34 then
          match String.fromUTF8? acc with
          | some s => pure (s, j + 1)
          | none => throw (errAt b (j + 1) "invalid unicode code point")
        else if c = 92 then do
          let (bs, k) ← escape b (j + 1)
          go k (bs.foldl ByteArray.push acc) fuel
        else if c < 32 then throw (errAt b (j + 1) "control character (\\u0000-\\u001F) found while parsing a string")
        else go (j + 1) (acc.push c) fuel
  go i ByteArray.empty (b.size + 1)

/-- The largest 64-bit unsigned integer, the bound of a significand. -/
def sigMax : Nat := Nat.pow 2 64 - 1

/-- The largest 32-bit signed integer, the bound of an exponent. -/
def expMax : Nat := 2147483647

/-- Digits from `j` taken into the significand `sig` while it stays within `sigMax`: the
significand, the next index, and whether a digit is left there that did not fit. -/
def gather (b : ByteArray) (sig j : Nat) : Nat × Nat × Bool :=
  let rec go (sig j : Nat) : Nat → Nat × Nat × Bool
    | 0 => (sig, j, false)
    | fuel + 1 =>
      match byte? b j with
      | some c =>
        if isDigit c then
          let v := sig * 10 + (c.toNat - 48)
          if v > sigMax then (sig, j, true) else go v (j + 1) fuel
        else (sig, j, false)
      | none => (sig, j, false)
  go sig j (b.size + 1)

/-- The index after the digits from `j`, and how many there were. -/
def skipDigits (b : ByteArray) (j : Nat) : Nat × Nat :=
  let rec go (j n : Nat) : Nat → Nat × Nat
    | 0 => (j, n)
    | fuel + 1 =>
      match byte? b j with
      | some c => if isDigit c then go (j + 1) (n + 1) fuel else (j, n)
      | none => (j, n)
  go j 0 (b.size + 1)

/-- The doubles `10^0, …, 10^308`, each the nearest double to the power. -/
def powersOfTen : Array Float := (Array.range 309).map (fun k => Nearest.ofNat (Nat.pow 10 k))

/-- `sig · 10^exp` computed in doubles: the significand's double is multiplied or divided
by one power from the table; an exponent beyond the table divides by `10^308` first, as
often as needed. -/
def fromParts (sig : Nat) (exp : Int) : Option Float :=
  let rec go (f : Float) (e : Int) : Nat → Option Float
    | 0 => some f
    | fuel + 1 =>
      match powersOfTen[e.natAbs]? with
      | some p =>
        if 0 ≤ e then
          let g := f * p
          if g.isInf then none else some g
        else some (f / p)
      | none =>
        if f == 0 then some f
        else if 0 ≤ e then none
        else go (f / powersOfTen[308]!) (e + 308) fuel
  go (Nearest.ofNat sig) exp 8

/-- The exponent sum kept within the 32-bit signed range. -/
def saturate (e : Int) : Int := max (-(expMax : Int) - 1) (min expMax e)

/-- A finished float `sig · 10^exp` ending before `l`; out of range is a fault there. -/
def finish (b : ByteArray) (neg : Bool) (sig : Nat) (exp : Int) (l : Nat) :
    Except ReadError (Number × Nat) :=
  match fromParts sig exp with
  | some f => pure (.float (if neg then -f else f), l)
  | none => throw (errAt b l "number out of range")

/-- The exponent after an `e` at `k - 1`, added to `start`. -/
def exponent (b : ByteArray) (neg : Bool) (sig : Nat) (start : Int) (k : Nat) :
    Except ReadError (Number × Nat) := do
  let (expNeg, s) := match byte? b k with
    | some 43 => (false, k + 1)
    | some 45 => (true, k + 1)
    | _ => (false, k)
  match byte? b s with
  | none => throw (errAt b s "EOF while parsing a value")
  | some d =>
    if ¬ isDigit d then throw (errAt b (s + 1) "invalid number")
    let rec go (v j : Nat) : Nat → Except ReadError (Number × Nat)
      | 0 => finish b neg sig (saturate (if expNeg then start - v else start + v)) j
      | fuel + 1 =>
        match byte? b j with
        | some c =>
          if isDigit c then
            let w := v * 10 + (c.toNat - 48)
            if w > expMax then
              if sig ≠ 0 ∧ ¬ expNeg then throw (errAt b (j + 1) "number out of range")
              else
                let (l, _) := skipDigits b (j + 1)
                pure (.float (if neg then -0.0 else 0.0), l)
            else go w (j + 1) fuel
          else finish b neg sig (saturate (if expNeg then start - v else start + v)) j
        | none => finish b neg sig (saturate (if expNeg then start - v else start + v)) j
    go (d.toNat - 48) (s + 1) (b.size + 1)

/-- What follows the digits of a float at `k`: an exponent or the end. -/
def exponentOrEnd (b : ByteArray) (neg : Bool) (sig : Nat) (exp : Int) (k : Nat) :
    Except ReadError (Number × Nat) :=
  match byte? b k with
  | some 101 | some 69 => exponent b neg sig exp (k + 1)
  | _ => finish b neg sig exp k

/-- The fraction after a point at `j`, its digits taken into `sig` while they fit and the
rest ignored; `before` is the power of ten the integer part already owes. -/
def fraction (b : ByteArray) (neg : Bool) (sig : Nat) (before : Int) (j : Nat) :
    Except ReadError (Number × Nat) := do
  let (sig', k, overflowed) := gather b sig (j + 1)
  let exp := before - ((k - (j + 1) : Nat) : Int)
  if overflowed then
    let (l, _) := skipDigits b k
    exponentOrEnd b neg sig' exp l
  else if k = j + 1 then
    match byte? b k with
    | some _ => throw (peekErr b k "invalid number")
    | none => throw (peekErr b k "EOF while parsing a value")
  else exponentOrEnd b neg sig' exp k

/-- A number whose sign (if any) was read; `i` is the index of its first digit. -/
def number (b : ByteArray) (neg : Bool) (i : Nat) : Except ReadError (Number × Nat) := do
  match byte? b i with
  | none => throw (errAt b i "EOF while parsing a value")
  | some c =>
    if ¬ isDigit c then throw (errAt b (i + 1) "invalid number")
    let (sig, j, overflowed) :=
      if c = 48 then (0, i + 1, false) else gather b (c.toNat - 48) (i + 1)
    if c = 48 then
      match byte? b j with
      | some d => if isDigit d then throw (peekErr b j "invalid number")
      | none => pure ()
    -- integer digits past the significand's room each add a power of ten
    let (j, extra) := if overflowed then skipDigits b j else (j, 0)
    match byte? b j with
    | some 46 => fraction b neg sig extra j
    | some 101 | some 69 => exponent b neg sig extra (j + 1)
    | _ =>
      if overflowed then finish b neg sig extra j
      else if ¬ neg then pure (.nat sig, j)
      else if sig ≠ 0 ∧ sig ≤ Nat.pow 2 63 then pure (.neg (-(sig : Int)), j)
      else pure (.float (-(Nearest.ofNat sig)), j)

/-- The literal `word` whose first byte was at `i - 1`. -/
def literal (b : ByteArray) (i : Nat) (word : List UInt8) (v : Json) : Except ReadError (Json × Nat) :=
  let rec go (j : Nat) : List UInt8 → Except ReadError (Json × Nat)
    | [] => pure (v, j)
    | w :: ws =>
      match byte? b j with
      | none => throw (errAt b j "EOF while parsing a value")
      | some c => if c = w then go (j + 1) ws else throw (errAt b (j + 1) "expected ident")
  go i word

mutual
/-- A value starting at or after `i` (blanks first), with `depth` containers still allowed. -/
def value (b : ByteArray) (depth : Nat) (i : Nat) : Nat → Except ReadError (Json × Nat)
  | 0 => throw (errAt b i "recursion limit exceeded")
  | fuel + 1 =>
    let i := skipWs b i
    match byte? b i with
    | none => throw (peekErr b i "EOF while parsing a value")
    | some c =>
      if c = 110 then literal b (i + 1) [117, 108, 108] .null
      else if c = 116 then literal b (i + 1) [114, 117, 101] (.bool true)
      else if c = 102 then literal b (i + 1) [97, 108, 115, 101] (.bool false)
      else if c = 45 then do
        let (n, j) ← number b true (i + 1)
        pure (.num n, j)
      else if isDigit c then do
        let (n, j) ← number b false i
        pure (.num n, j)
      else if c = 34 then do
        let (s, j) ← string b (i + 1)
        pure (.str s, j)
      else if c = 91 then
        if depth ≤ 1 then throw (peekErr b i "recursion limit exceeded")
        else items b (depth - 1) (i + 1) true [] fuel
      else if c = 123 then
        if depth ≤ 1 then throw (peekErr b i "recursion limit exceeded")
        else members b (depth - 1) (i + 1) true [] fuel
      else throw (peekErr b i "expected value")
  termination_by structural fuel => fuel
/-- The rest of an array after `[` or after an item. -/
def items (b : ByteArray) (depth : Nat) (i : Nat) (first : Bool) (acc : List Json) :
    Nat → Except ReadError (Json × Nat)
  | 0 => throw (errAt b i "recursion limit exceeded")
  | fuel + 1 => do
    let i := skipWs b i
    match byte? b i with
    | none => throw (peekErr b i "EOF while parsing a list")
    | some c =>
      if c = 93 then pure (.arr acc.reverse, i + 1)
      else
        let start ← if first then pure i
          else if c = 44 then pure (skipWs b (i + 1))
          else throw (peekErr b i "expected `,` or `]`")
        match byte? b start with
        | none => throw (peekErr b start "EOF while parsing a value")
        | some 93 => throw (peekErr b start "trailing comma")
        | some _ => do
          let (v, j) ← value b depth start fuel
          items b depth j false (v :: acc) fuel
  termination_by structural fuel => fuel
/-- The rest of an object after `{` or after a member. -/
def members (b : ByteArray) (depth : Nat) (i : Nat) (first : Bool) (acc : List (String × Json)) :
    Nat → Except ReadError (Json × Nat)
  | 0 => throw (errAt b i "recursion limit exceeded")
  | fuel + 1 => do
    let i := skipWs b i
    match byte? b i with
    | none => throw (peekErr b i "EOF while parsing an object")
    | some c =>
      if c = 125 then pure (.obj acc, i + 1)
      else
        let start ← if first then pure i
          else if c = 44 then pure (skipWs b (i + 1))
          else throw (peekErr b i "expected `,` or `\x7d`")
        match byte? b start with
        | none => throw (peekErr b start "EOF while parsing a value")
        | some 125 => throw (peekErr b start "trailing comma")
        | some 34 => do
          let (k, j) ← string b (start + 1)
          let j := skipWs b j
          match byte? b j with
          | some 58 => do
            let (v, l) ← value b depth (j + 1) fuel
            members b depth l false (Json.insertField k v acc) fuel
          | some _ => throw (peekErr b j "expected `:`")
          | none => throw (peekErr b j "EOF while parsing an object")
        | some _ => throw (peekErr b start "key must be a string")
  termination_by structural fuel => fuel
end

end Json.Reader

namespace Json

/-- Reads one JSON value from bytes; only blanks may follow it. -/
def ofBytes (b : ByteArray) : Except ReadError Json := do
  let (v, i) ← Reader.value b 128 0 (2 * b.size + 4)
  let j := Reader.skipWs b i
  if j < b.size then throw (Reader.peekErr b j "trailing characters")
  pure v

/-- Reads one JSON value from text; only blanks may follow it. -/
def parse (s : String) : Except ReadError Json := ofBytes s.toUTF8

end Json

end JobFlow
