import JobFlow.Json.Read

/-!
# Doubles read and written as C does

`printf` reads a floating argument as C's `strtod` does: blanks, a sign, then `inf`,
`infinity` or `nan` in any case, a hexadecimal significand `0x1.8p3` with a binary exponent, or a
decimal one with an optional exponent, rounded to the nearest double.
-/

namespace JobFlow.Shell

/-- A double: a finite value `(-1)^neg · m · 2^e`, an infinity, or not a number. -/
inductive Double where
  | finite (neg : Bool) (m : Nat) (e : Int)
  | infinite (neg : Bool)
  | nan (neg : Bool)
  deriving Inhabited, Repr

namespace Double

/-- The double of a floating value, with the sign given. -/
def ofFloat (neg : Bool) (f : Float) : Double :=
  let bits := f.toBits.toNat
  let expField := bits / Nat.pow 2 52 % 2048
  let mant := bits % Nat.pow 2 52
  if expField = 2047 then (if mant = 0 then .infinite neg else .nan neg)
  else if expField = 0 then .finite neg mant (-1074)
  else .finite neg (mant + Nat.pow 2 52) ((expField : Int) - 1075)

/-- Whether a finite double is below the normal range. -/
def isTiny : Double → Bool
  | .finite _ m _ => m < Nat.pow 2 52
  | _ => false

/-- Whether a double is zero. -/
def isZero : Double → Bool
  | .finite _ m _ => m = 0
  | _ => false

/-- The value of a hexadecimal or decimal digit. -/
def digitValue (base : Nat) (c : Char) : Option Nat :=
  let v := if '0' ≤ c ∧ c ≤ '9' then some (c.toNat - 48)
    else if 'a' ≤ c ∧ c ≤ 'f' then some (c.toNat - 87)
    else if 'A' ≤ c ∧ c ≤ 'F' then some (c.toNat - 55)
    else none
  v.bind (fun d => if d < base then some d else none)

/-- Reads the digits of a significand in a base, with an optional point: the digits as one
number, how many followed the point, and how many characters were read. -/
def significand (base : Nat) (cs : List Char) : Nat × Nat × Nat × Nat :=
  let isD := fun c => (digitValue base c).isSome
  let whole := cs.takeWhile isD
  let rest := cs.drop whole.length
  let (frac, pointLen) := match rest with
    | '.' :: more => (more.takeWhile isD, 1)
    | _ => ([], 0)
  let value := (whole ++ frac).foldl (fun acc c => acc * base + (digitValue base c).getD 0) 0
  let count := whole.length + frac.length
  (value, frac.length, count, if count = 0 then 0 else whole.length + pointLen + frac.length)

/-- Reads an exponent after its letter: its value and how many characters it took, nothing
when no digit follows. -/
def exponent (cs : List Char) : Int × Nat :=
  match cs with
  | c :: rest =>
    if c = 'e' ∨ c = 'E' ∨ c = 'p' ∨ c = 'P' then
      let (neg, body, signLen) := match rest with
        | '-' :: more => (true, more, 1)
        | '+' :: more => (false, more, 1)
        | _ => (false, rest, 0)
      let ds := body.takeWhile Char.isDigit
      if ds.isEmpty then (0, 0)
      else
        let v : Nat := ds.foldl (fun acc d => acc * 10 + (d.toNat - 48)) 0
        (if neg then -(v : Int) else v, 1 + signLen + ds.length)
    else (0, 0)
  | [] => (0, 0)

/-- Whether a text starts with a word, in any case. -/
def startsWithWord (cs : List Char) (w : String) : Bool :=
  cs.length ≥ w.length ∧ (cs.take w.length).map Char.toLower = w.toList

/-- The double nearest to `h · 2^k`. -/
def binaryNearest (h : Nat) (k : Int) : Float :=
  if h = 0 then 0
  else if (Nearest.bitLength h : Int) + k > 1100 then 1 / 0
  else if (Nearest.bitLength h : Int) + k < -1100 then 0
  else if 0 ≤ k then Nearest.ofRatio (h * Nat.pow 2 k.toNat) 1
  else Nearest.ofRatio h (Nat.pow 2 (-k).toNat)

/-- Reads a double as C's `strtod` does from the head of a byte text: its value, how many
characters it took (none when no number starts the text), and whether the value was out of the
range of doubles. -/
def read (input : List Char) : Double × Nat × Bool :=
  let blanks := (input.takeWhile (fun c => c = ' ' ∨ (c.toNat ≥ 9 ∧ c.toNat ≤ 13))).length
  let cs := input.drop blanks
  let (neg, cs, signLen) := match cs with
    | '-' :: rest => (true, rest, 1)
    | '+' :: rest => (false, rest, 1)
    | _ => (false, cs, 0)
  let lead := blanks + signLen
  let finish (f : Float) (exactZero : Bool) (len : Nat) : Double × Nat × Bool :=
    let d := ofFloat neg f
    let range := (match d with | .infinite _ => true | _ => false) ||
      (!exactZero && (d.isZero || d.isTiny))
    (d, lead + len, range)
  if startsWithWord cs "infinity" then (.infinite neg, lead + 8, false)
  else if startsWithWord cs "inf" then (.infinite neg, lead + 3, false)
  else if startsWithWord cs "nan" then
    let rest := cs.drop 3
    let extra := match rest with
      | '(' :: more =>
        let body := more.takeWhile (fun c => (c.toNat < 128 ∧ c.isAlphanum) ∨ c = '_')
        match more.drop body.length with
        | ')' :: _ => body.length + 2
        | _ => 0
      | _ => 0
    (.nan neg, lead + 3 + extra, false)
  else
    let hex := match cs with
      | '0' :: x :: rest =>
        if x = 'x' ∨ x = 'X' then
          let (h, fracLen, count, len) := significand 16 rest
          if count = 0 then none
          else
            let (p, expLen) := exponent (rest.drop len)
            some (binaryNearest h (p - 4 * (fracLen : Int)), decide (h = 0), 2 + len + expLen)
        else none
      | _ => none
    match hex with
    | some (f, zero, len) => finish f zero len
    | none =>
      let (d, fracLen, count, len) := significand 10 cs
      if count = 0 then (.finite false 0 0, 0, false)
      else
        let (x, expLen) := exponent (cs.drop len)
        finish (Nearest.ofDecimal d (x - fracLen)) (decide (d = 0)) (len + expLen)

/-- `n / d` rounded to nearest, a tie to even. -/
def roundDiv (n d : Nat) : Nat := Nearest.roundHalfEven (n / d) (n % d) d

/-- `m · 2^e · 10^k` rounded to a whole number. -/
def scaled (m : Nat) (e k : Int) : Nat :=
  let num := m * Nat.pow 2 (max e 0).toNat * Nat.pow 10 (max k 0).toNat
  let den := Nat.pow 2 (max (-e) 0).toNat * Nat.pow 10 (max (-k) 0).toNat
  roundDiv num den

/-- Whether `m · 2^e ≥ 10^x`. -/
def atLeastPow10 (m : Nat) (e x : Int) : Bool :=
  m * Nat.pow 2 (max e 0).toNat * Nat.pow 10 (max (-x) 0).toNat ≥
    Nat.pow 2 (max (-e) 0).toNat * Nat.pow 10 (max x 0).toNat

/-- The decimal exponent of a positive `m · 2^e`: the `x` with `10^x ≤ m · 2^e < 10^(x+1)`. -/
def decimalExponent (m : Nat) (e : Int) : Int :=
  let guess : Int := Int.fdiv (((Nearest.bitLength m : Int) - 1 + e) * 30103) 100000
  let rec down : Nat → Int → Int
    | 0, x => x
    | k + 1, x => if atLeastPow10 m e x then x else down k (x - 1)
  let rec up : Nat → Int → Int
    | 0, x => x
    | k + 1, x => if atLeastPow10 m e (x + 1) then up k (x + 1) else x
  up 4 (down 4 guess)

/-- The decimal digits of `n`, at least `width` of them. -/
def digitsAtLeast (n width : Nat) : String :=
  let s := toString n
  String.ofList (List.replicate (width - s.length) '0') ++ s

/-- A number with `p` digits after the point, from its digits scaled by `10^p`; the point
stays when `point` asks even without digits after it. -/
def placePoint (n p : Nat) (point : Bool) : String :=
  let s := digitsAtLeast n (p + 1)
  let cut := s.length - p
  String.ofList (s.toList.take cut) ++ (if p > 0 ∨ point then "." else "") ++
    String.ofList (s.toList.drop cut)

/-- `%f`: the value with `p` digits after the point. -/
def fixedText (m : Nat) (e : Int) (p : Nat) (point : Bool) : String :=
  placePoint (scaled m e p) p point

/-- The significant digits of `%e` for a value, `p` after the first, and its exponent. -/
def expParts (m : Nat) (e : Int) (p : Nat) : Nat × Int :=
  if m = 0 then (0, 0)
  else
    let x := decimalExponent m e
    let n := scaled m e ((p : Int) - x)
    if n ≥ Nat.pow 10 (p + 1) then (n / 10, x + 1) else (n, x)

/-- The exponent part `e+05` of `%e`. -/
def exponentText (x : Int) (upper : Bool) : String :=
  (if upper then "E" else "e") ++ (if x < 0 then "-" else "+") ++ digitsAtLeast x.natAbs 2

/-- `%e`: one digit, the point, `p` digits and the exponent. -/
def expText (m : Nat) (e : Int) (p : Nat) (point upper : Bool) : String :=
  let (n, x) := expParts m e p
  placePoint n p point ++ exponentText x upper

/-- A number text without the zeros that end its fraction, and without a point left last. -/
def trimFraction (s : String) : String :=
  if s.contains '.' then
    let cs := (s.toList.reverse.dropWhile (· = '0'))
    let cs := match cs with
      | '.' :: rest => rest
      | _ => cs
    String.ofList cs.reverse
  else s

/-- `%g`: `p` significant digits, written as `%f` when the exponent is at least `-4` and less
than `p`, else as `%e`; without `#`, zeros ending the fraction are dropped. -/
def generalText (m : Nat) (e : Int) (p : Nat) (point upper : Bool) : String :=
  let p := if p = 0 then 1 else p
  let (_, x) := expParts m e (p - 1)
  if x < p ∧ x ≥ -4 then
    let s := fixedText m e (p - 1 - x).toNat point
    if point then s else trimFraction s
  else
    let (n, x) := expParts m e (p - 1)
    let s := placePoint n (p - 1) point
    (if point then s else trimFraction s) ++ exponentText x upper

/-- The hexadecimal digits of `n`, exactly `width` of them. -/
def hexDigits (n width : Nat) (upper : Bool) : String :=
  let ds := Nat.toDigits 16 n
  let ds := if upper then ds.map Char.toUpper else ds
  String.ofList (List.replicate (width - ds.length) '0' ++ ds)

/-- `%a` without its `0x`: a leading digit, the hexadecimal fraction, `p` and the binary
exponent; without a precision the fraction has no zeros at its end. -/
def hexText (m : Nat) (e : Int) (prec : Option Nat) (point upper : Bool) : String :=
  let (lead, frac, x) : Nat × Nat × Int :=
    if m = 0 then (0, 0, 0)
    else if m < Nat.pow 2 52 then (0, m, -1022)
    else (1, m - Nat.pow 2 52, e + 52)
  let (lead, fracText) := match prec with
    | none =>
      let s := hexDigits frac 13 upper
      let s := String.ofList (s.toList.reverse.dropWhile (· = '0')).reverse
      (lead, s)
    | some p =>
      if p ≥ 13 then (lead, hexDigits frac 13 upper ++ String.ofList (List.replicate (p - 13) '0'))
      else
        let shift := Nat.pow 2 (52 - 4 * p)
        let whole := lead * Nat.pow 16 p + frac / shift
        let r := Nearest.roundHalfEven whole (frac % shift) shift
        (r / Nat.pow 16 p, if p = 0 then "" else hexDigits (r % Nat.pow 16 p) p upper)
  let pointText := if fracText.isEmpty ∧ ¬ point then "" else "."
  toString lead ++ pointText ++ fracText ++ (if upper then "P" else "p") ++
    (if x < 0 then "-" else "+") ++ toString x.natAbs

end Double

end JobFlow.Shell
