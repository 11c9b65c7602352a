/-!
# Points in time

The index stamps rows with times.
-/

namespace JobFlow

/-- What is wrong with a time text. -/
inductive StampFault where
  | invalid
  | tooShort
  | tooLong
  | outOfRange
  | notEnough
  deriving DecidableEq, Inhabited, Repr

/-- The text of a fault. -/
def StampFault.message : StampFault → String
  | .invalid => "input contains invalid characters"
  | .tooShort => "premature end of input"
  | .tooLong => "trailing input"
  | .outOfRange => "input is out of range"
  | .notEnough => "input is not enough for unique date and time"

/-- A point in time: one read from outside, kept as its UTC text, or a reading of the clock. -/
inductive Stamp where
  | now
  | at (text : String)
  deriving DecidableEq, Inhabited, Repr

namespace Stamp

/-- How a time is shown: times before 2020 as they are, others as `<now>`. -/
def text : Stamp → String
  | .at t => if t < "2020-01-01" then t else "<now>"
  | .now => "<now>"

/-- The text the clock is taken to read: later than every time before 2026, earlier than
every time after. -/
def clockText : String := "2026-01-01T00:00:00.000000Z"

/-- The text a time compares by. -/
def key : Stamp → String
  | .at t => t
  | .now => clockText

/-- Whether one time is earlier than another, comparing their texts. -/
def before (a b : Stamp) : Bool := decide (a.key < b.key)

/-- Whether a character is white space in the sense of Unicode. -/
def isWhite (c : Char) : Bool :=
  let n := c.toNat
  (0x09 ≤ n ∧ n ≤ 0x0D) ∨ n = 0x20 ∨ n = 0x85 ∨ n = 0xA0 ∨ n = 0x1680 ∨
    (0x2000 ≤ n ∧ n ≤ 0x200A) ∨ n = 0x2028 ∨ n = 0x2029 ∨ n = 0x202F ∨ n = 0x205F ∨ n = 0x3000

/-- The number of UTF-8 bytes of some characters: lengths are counted in bytes. -/
def byteLength (cs : List Char) : Nat := cs.foldl (fun n c => n + c.utf8Size) 0

/-- The largest value a run of digits may reach. -/
def numberMax : Nat := Nat.pow 2 63 - 1

/-- Reads at least `lo` and at most `hi` digits; answers their value and the rest. -/
def number (lo hi : Nat) (cs : List Char) : Except StampFault (Nat × List Char) :=
  if byteLength cs < lo then .error .tooShort
  else
    let rec go (i acc : Nat) : List Char → Except StampFault (Nat × List Char)
      | [] => .ok (acc, [])
      | c :: rest =>
        if i ≥ hi then .ok (acc, c :: rest)
        else if !c.isDigit then
          if i < lo then .error .invalid else .ok (acc, c :: rest)
        else
          let v := acc * 10 + (c.toNat - 48)
          if v > numberMax then .error .outOfRange else go (i + 1) v rest
    go 0 0 cs

/-- Expects one character. -/
def expect (c : Char) : List Char → Except StampFault (List Char)
  | [] => .error .tooShort
  | d :: rest => if d = c then .ok rest else .error .invalid

/-- A value checked against its range. -/
def ranged (lo hi v : Nat) : Except StampFault Nat :=
  if lo ≤ v ∧ v ≤ hi then .ok v else .error .outOfRange

/-- The digits of a fraction of a second after its point, as nanoseconds: one to nine
digits count, more are skipped. -/
def fraction (cs : List Char) : Except StampFault (Nat × List Char) := do
  let (v, rest) ← number 1 9 cs
  let used := cs.length - rest.length
  pure (v * Nat.pow 10 (9 - used), rest.dropWhile Char.isDigit)

/-- The separator of a date from its time: `T`, `t` or a blank. -/
def separator : List Char → Except StampFault (List Char)
  | [] => .error .tooShort
  | c :: rest => if c = 'T' ∨ c = 't' ∨ c = ' ' then .ok rest else .error .invalid

/-- Reads two digits, or says why not: a text of fewer than two bytes is short. -/
def twoDigits (cs : List Char) : Except StampFault (Char × Char × List Char) :=
  match cs with
  | a :: b :: rest => .ok (a, b, rest)
  | _ => if byteLength cs < 2 then .error .tooShort else .error .invalid

/-- The value of a digit character. -/
def digitValue (c : Char) : Nat := c.toNat - 48

/-- Reads a zone: `Z` (or `z`), or a sign, two digits of hours, what `colon` skips, and two
digits of minutes; answers the offset east of UTC in seconds. -/
def zone (colon : List Char → Except StampFault (List Char)) (cs : List Char) :
    Except StampFault (Int × List Char) := do
  match cs with
  | [] => throw .tooShort
  | c :: rest =>
    if c = 'Z' ∨ c = 'z' then return (0, rest)
    let negative ←
      if c = '+' then pure false
      else if c = '-' ∨ c = '−' then pure true
      else throw .invalid
    let (h1, h2, rest) ← twoDigits rest
    if !(h1.isDigit ∧ h2.isDigit) then throw .invalid
    let rest ← colon rest
    let (m1, m2, rest) ← twoDigits rest
    if !m2.isDigit then throw .invalid
    if '6' ≤ m1 ∧ m1 ≤ '9' then throw .outOfRange
    if !('0' ≤ m1 ∧ m1 ≤ '5') then throw .invalid
    let seconds : Int := ((digitValue h1 * 10 + digitValue h2) * 3600 + (digitValue m1 * 10 + digitValue m2) * 60 : Nat)
    return (if negative then -seconds else seconds, rest)

/-- The colon of a strict offset. -/
def strictColon : List Char → Except StampFault (List Char) := expect ':'

/-- Any run of colons and blanks, as a lenient offset may have. -/
def looseColon (cs : List Char) : Except StampFault (List Char) :=
  .ok (cs.dropWhile (fun c => c = ':' ∨ isWhite c))

/-- The fields of a time as read. -/
structure Fields where
  year : Int
  month : Nat
  day : Nat
  hour : Nat
  minute : Nat
  /-- 60 for a leap second -/
  second : Nat
  nanos : Nat
  /-- seconds east of UTC -/
  offset : Int
  deriving DecidableEq, Inhabited, Repr

/-- The earliest year a date may have. -/
def minYear : Int := -262143
/-- The latest year a date may have. -/
def maxYear : Int := 262142

/-- A year as a field: it must fit in 32 bits. -/
def yearField (y : Int) : Except StampFault Int :=
  if -(Nat.pow 2 31 : Int) ≤ y ∧ y < (Nat.pow 2 31 : Int) then .ok y else .error .outOfRange

/-- Reads a time as RFC 3339 writes it. -/
def readFields (text : String) : Except StampFault Fields := do
  let cs := text.toList
  if byteLength cs < 19 then throw .tooShort
  let (y, cs) ← number 4 4 cs
  let cs ← expect '-' cs
  let (mo, cs) ← number 2 2 cs
  let mo ← ranged 1 12 mo
  let cs ← expect '-' cs
  let (d, cs) ← number 2 2 cs
  let d ← ranged 1 31 d
  let cs ← separator cs
  let (h, cs) ← number 2 2 cs
  let h ← ranged 0 23 h
  let cs ← expect ':' cs
  let (mi, cs) ← number 2 2 cs
  let mi ← ranged 0 59 mi
  let cs ← expect ':' cs
  let (s, cs) ← number 2 2 cs
  let s ← ranged 0 60 s
  let (nanos, cs) ← match cs with
    | '.' :: rest => fraction rest
    | _ => pure (0, cs)
  let (off, cs) ← zone strictColon cs
  if off.natAbs > 23 * 3600 + 59 * 60 then throw .outOfRange
  if !cs.isEmpty then throw .tooLong
  pure ⟨y, mo, d, h, mi, s, nanos, off⟩

/-- Reads a field of the lenient reader: blanks, then one to `width` digits. -/
def looseNumber (width : Nat) (cs : List Char) : Except StampFault (Nat × List Char) :=
  number 1 width (cs.dropWhile isWhite)

/-- Expects one character of the lenient reader: a text with no character left is short. -/
def looseLiteral (c : Char) (cs : List Char) : Except StampFault (List Char) := expect c cs

/-- Reads the year of the lenient reader: blanks, then a sign and any number of digits, or
one to four digits. -/
def looseYear (cs : List Char) : Except StampFault (Int × List Char) := do
  match cs.dropWhile isWhite with
  | '-' :: rest =>
    let (v, rest) ← number 1 numberMax rest
    pure (-(v : Int), rest)
  | '+' :: rest =>
    let (v, rest) ← number 1 numberMax rest
    pure ((v : Int), rest)
  | rest =>
    let (v, rest) ← number 1 4 rest
    pure ((v : Int), rest)

/-- Whether a text starts with `UTC` in any case. -/
def startsUtc : List Char → Bool
  | a :: b :: c :: _ => a.toLower = 'u' ∧ b.toLower = 't' ∧ c.toLower = 'c'
  | _ => false

/-- Reads a time leniently. -/
def readLoose (text : String) : Except StampFault Fields := do
  let cs := text.toList
  let (y, cs) ← looseYear cs
  let y ← yearField y
  let cs ← looseLiteral '-' cs
  let (mo, cs) ← looseNumber 2 cs
  let mo ← ranged 1 12 mo
  let cs ← looseLiteral '-' cs
  let (d, cs) ← looseNumber 2 cs
  let d ← ranged 1 31 d
  if cs.isEmpty then throw .notEnough
  let cs ← separator cs
  let (h, cs) ← looseNumber 2 cs
  let h ← ranged 0 23 h
  let cs ← looseLiteral ':' cs
  let (mi, cs) ← looseNumber 2 cs
  let mi ← ranged 0 59 mi
  let cs ← looseLiteral ':' cs
  let (s, cs) ← looseNumber 2 cs
  let s ← ranged 0 60 s
  let (nanos, cs) ← match cs with
    | '.' :: rest => fraction rest
    | _ => pure (0, cs)
  let cs := cs.dropWhile isWhite
  if cs.isEmpty then throw .notEnough
  let (off, cs) ← if startsUtc cs then pure (0, cs.drop 3) else zone looseColon cs
  if !(cs.dropWhile isWhite).isEmpty then throw .tooLong
  pure ⟨y, mo, d, h, mi, s, nanos, off⟩

/-- Whether a year is a leap year. -/
def leap (y : Int) : Bool := (y % 4 = 0 ∧ y % 100 ≠ 0) ∨ y % 400 = 0

/-- The number of days of a month. -/
def monthDays (y : Int) (m : Nat) : Nat :=
  if m = 2 then (if leap y then 29 else 28)
  else if m = 4 ∨ m = 6 ∨ m = 9 ∨ m = 11 then 30 else 31

/-- Days from 0000-03-01 to a date, by whole eras of 400 years of March to February. -/
def dayNumber (y : Int) (m d : Nat) : Int :=
  let y' : Int := if m ≤ 2 then y - 1 else y
  let era := y' / 400
  let yoe := y' - era * 400
  let mp : Int := if m > 2 then (m : Int) - 3 else (m : Int) + 9
  let doy := (153 * mp + 2) / 5 + (d : Int) - 1
  let doe := yoe * 365 + yoe / 4 - yoe / 100 + doy
  era * 146097 + doe

/-- The date of a day number. -/
def ofDayNumber (z : Int) : Int × Nat × Nat :=
  let era := z / 146097
  let doe := z - era * 146097
  let yoe := (doe - doe / 1460 + doe / 36524 - doe / 146096) / 365
  let y := yoe + era * 400
  let doy := doe - (365 * yoe + yoe / 4 - yoe / 100)
  let mp := (5 * doy + 2) / 153
  let d := doy - (153 * mp + 2) / 5 + 1
  let m := if mp < 10 then mp + 3 else mp - 9
  ((if m ≤ 2 then y + 1 else y), m.toNat, d.toNat)

/-- A number written with at least `n` digits. -/
def padded (n v : Nat) : String :=
  let s := toString v
  String.ofList (List.replicate (n - s.length) '0') ++ s

/-- A year as RFC 3339 writes it: four digits within `0..9999`, else its sign and at least
four digits. -/
def yearText (y : Int) : String :=
  if 0 ≤ y ∧ y ≤ 9999 then padded 4 y.toNat
  else (if y < 0 then "-" else "+") ++ padded 4 y.natAbs

/-- The fixed-width UTC text of a time given by its parts; a leap second is second 60. -/
def render (y : Int) (mo d h mi s nanos : Nat) : String :=
  s!"{yearText y}-{padded 2 mo}-{padded 2 d}T{padded 2 h}:{padded 2 mi}:{padded 2 s}.{padded 6 (nanos / 1000)}Z"

/-- The time the fields name, taken to UTC; the date must exist and lie within the years
a date may have, before and after the offset is taken off. -/
def Fields.toStamp (f : Fields) : Except StampFault Stamp := do
  if f.year < minYear ∨ f.year > maxYear ∨ f.day > monthDays f.year f.month then throw .outOfRange
  if f.offset.natAbs ≥ 86400 then throw .outOfRange
  let (sec, leapNanos) := if f.second = 60 then (59, 1000000000) else (f.second, 0)
  let total : Int := dayNumber f.year f.month f.day * 86400 + (f.hour * 3600 + f.minute * 60 + sec : Nat) - f.offset
  let day := total / 86400
  let rest := (total % 86400).toNat
  let (yy, mm, dd) := ofDayNumber day
  if yy < minYear ∨ yy > maxYear then throw .outOfRange
  let nanos := f.nanos + leapNanos
  let (shownSec, shownNanos) := if nanos ≥ 1000000000 then (rest % 60 + 1, nanos - 1000000000) else (rest % 60, nanos)
  pure (.at (render yy mm dd (rest / 3600) (rest / 60 % 60) shownSec shownNanos))

/-- Reads an RFC 3339 time as written. -/
def parse (text : String) : Except StampFault Stamp := do
  (← readFields text).toStamp

/-- Reads a time leniently, as rows given as values are read. -/
def parseLoose (text : String) : Except StampFault Stamp := do
  (← readLoose text).toStamp

/-- Checks that a kept time reads back as RFC 3339; a time whose year lies outside
`0..9999` does not. -/
def check : Stamp → Except StampFault Unit
  | .now => .ok ()
  | .at t => do
    let _ ← parse t
    pure ()

end Stamp

end JobFlow
