import JobFlow.Json.Value
import JobFlow.Json.Shortest

/-!
# Writing JSON text

Compact JSON text: no blanks, members in the object's (sorted) order, the short escapes for
quote, backslash and the five common control characters and `\u00XX` for the other control
characters.
-/

namespace JobFlow

namespace Json

/-- The lowercase hexadecimal digit of a value below 16. -/
def hexDigit (n : Nat) : Char :=
  if n < 10 then Char.ofNat (48 + n) else Char.ofNat (87 + n)

/-- Four lowercase hexadecimal digits of a value below `2^16`. -/
def hex4 (n : Nat) : String :=
  String.ofList [hexDigit (n / 4096 % 16), hexDigit (n / 256 % 16), hexDigit (n / 16 % 16),
    hexDigit (n % 16)]

/-- The escaped form of one character inside a JSON string. -/
def escapeChar (c : Char) : String :=
  if c = '"' then "\\\""
  else if c = '\\' then "\\\\"
  else if c = '\n' then "\\n"
  else if c = '\r' then "\\r"
  else if c = '\t' then "\\t"
  else if c.toNat = 8 then "\\b"
  else if c.toNat = 12 then "\\f"
  else if c.toNat < 32 then "\\u" ++ hex4 c.toNat
  else c.toString

/-- A string as a quoted JSON string. -/
def quote (s : String) : String :=
  s.toList.foldl (fun acc c => acc ++ escapeChar c) "\"" ++ "\""

/-- Decimal text of a digit count `c` scaled by `10^t`, with the exponent form beyond
`[-5, 16)`. -/
def decimalText (c : Nat) (t : Int) : String :=
  let ds := toString c
  let n := ds.length
  -- `sci` is the exponent of the leading digit.
  let sci : Int := t + n - 1
  if sci ≥ 16 ∨ sci < -5 then
    let mant := if n = 1 then ds else String.ofList (ds.toList.take 1) ++ "." ++ String.ofList (ds.toList.drop 1)
    let sign := if sci < 0 then "-" else "+"
    mant ++ "e" ++ sign ++ toString sci.natAbs
  else if t ≥ 0 then
    ds ++ String.ofList (List.replicate t.toNat '0') ++ ".0"
  else if sci ≥ 0 then
    let k := (sci + 1).toNat
    String.ofList (ds.toList.take k) ++ "." ++ String.ofList (ds.toList.drop k)
  else
    "0." ++ String.ofList (List.replicate ((-sci).toNat - 1) '0') ++ ds

/-- The text of a finite double, or `none` for NaN and the infinities. -/
def floatText? (f : Float) : Option String :=
  let bits := f.toBits.toNat
  let neg := bits ≥ Nat.pow 2 63
  let expField := bits / Nat.pow 2 52 % 2048
  let mantField := bits % Nat.pow 2 52
  let sign := if neg then "-" else ""
  if expField = 2047 then none
  else if expField = 0 ∧ mantField = 0 then some (sign ++ "0.0")
  else
    let (c, t) := Shortest.digits (Shortest.exactOf expField mantField)
    some (sign ++ decimalText c t)

/-- The text of a double where a finite value is expected; NaN and the infinities read as
`null`. -/
def floatText (f : Float) : String := (floatText? f).getD "null"

end Json

/-- The text of a number. -/
def Number.text : Number → String
  | .nat n => toString n
  | .neg n => "-" ++ toString n.natAbs
  | .float f => Json.floatText f

namespace Json

mutual
/-- Compact JSON text of a value. -/
def compact : Json → String
  | .null => "null"
  | .bool true => "true"
  | .bool false => "false"
  | .num n => n.text
  | .str s => quote s
  | .arr items => "[" ++ compactItems items ++ "]"
  | .obj fields => "\x7b" ++ compactFields fields ++ "\x7d"
/-- Comma-separated items of an array. -/
def compactItems : List Json → String
  | [] => ""
  | [x] => compact x
  | x :: rest => compact x ++ "," ++ compactItems rest
/-- Comma-separated members of an object. -/
def compactFields : List (String × Json) → String
  | [] => ""
  | [(k, v)] => quote k ++ ":" ++ compact v
  | (k, v) :: rest => quote k ++ ":" ++ compact v ++ "," ++ compactFields rest
end

end Json

end JobFlow
