/-!
# Arithmetic expansion

The text of `$((...))`, after its own expansions, is an expression over signed 64-bit
integers with the operators of C: unary `+ - ! ~`, binary `* / % + - << >> < <= > >= == !=
& ^ |`, `&&` and `||` with short circuit, `? :`, and assignment `=` and `op=` to a variable.
-/

namespace JobFlow.Shell

/-- A binary operator of arithmetic. -/
inductive BinOp where
  | mul | div | rem | add | sub | shl | shr | lt | le | gt | ge | eq | ne | band | bxor | bor
  deriving DecidableEq, Inhabited, Repr

namespace BinOp

/-- How tightly the operator binds: smaller binds tighter. -/
def prec : BinOp → Nat
  | .mul | .div | .rem => 0
  | .add | .sub => 1
  | .shl | .shr => 2
  | .lt | .le | .gt | .ge => 3
  | .eq | .ne => 4
  | .band => 5
  | .bxor => 6
  | .bor => 7

/-- Whether the operator may be joined with `=` into an assignment. -/
def assignable : BinOp → Bool
  | .lt | .le | .gt | .ge | .eq | .ne => false
  | _ => true

end BinOp

/-- A signed 64-bit word as an integer. -/
def wrap64 (x : Int) : Int := Int.bmod x (Nat.pow 2 64)

/-- The two's complement bits of a word. -/
def bits64 (x : Int) : Nat := (x % (Nat.pow 2 64 : Int)).toNat

/-- Applies a binary operator to two words; `none` for a division by zero. -/
def BinOp.apply (op : BinOp) (a b : Int) : Option Int :=
  let bool (p : Bool) : Int := if p then 1 else 0
  match op with
  | .mul => some (wrap64 (a * b))
  | .div => if b = 0 then none else some (wrap64 (Int.tdiv a b))
  | .rem => if b = 0 then none else some (wrap64 (Int.tmod a b))
  | .add => some (wrap64 (a + b))
  | .sub => some (wrap64 (a - b))
  | .shl => some (wrap64 ((bits64 a * Nat.pow 2 (bits64 b % 64) : Nat) : Int))
  | .shr => some (wrap64 (Int.fdiv a (Nat.pow 2 (bits64 b % 64) : Nat)))
  | .lt => some (bool (a < b))
  | .le => some (bool (a ≤ b))
  | .gt => some (bool (a > b))
  | .ge => some (bool (a ≥ b))
  | .eq => some (bool (a = b))
  | .ne => some (bool (a ≠ b))
  | .band => some (wrap64 (Int.ofNat (bits64 a &&& bits64 b)))
  | .bxor => some (wrap64 (Int.ofNat (bits64 a ^^^ bits64 b)))
  | .bor => some (wrap64 (Int.ofNat (bits64 a ||| bits64 b)))

/-- A token of an arithmetic expression. -/
inductive ArithToken where
  | num (v : Int)
  | var (name : String)
  | bin (op : BinOp)
  | assign (op : Option BinOp)
  | orElse
  | andAlso
  | bang
  | tilde
  | lparen
  | rparen
  | question
  | colon
  | bad
  | eof
  deriving Inhabited, Repr

/-- The value of a digit in a base. -/
def digitIn (base : Nat) (c : Char) : Option Nat :=
  let v := if '0' ≤ c ∧ c ≤ '9' then some (c.toNat - 48)
    else if 'a' ≤ c ∧ c ≤ 'z' then some (c.toNat - 87)
    else if 'A' ≤ c ∧ c ≤ 'Z' then some (c.toNat - 55)
    else none
  v.bind (fun d => if d < base then some d else none)

/-- The largest word. -/
def wordMax : Int := (Nat.pow 2 63 : Nat) - 1

/-- Reads the digits of a base from the head of a text: their value and the rest. -/
def readDigits (base : Nat) (cs : List Char) : Nat × Nat × List Char :=
  let ds := cs.takeWhile (fun c => (digitIn base c).isSome)
  (ds.foldl (fun acc c => acc * base + (digitIn base c).getD 0) 0, ds.length, cs.drop ds.length)

/-- Reads an integer constant as C's `strtoimax` does with base 0 from text that starts with a
sign or digit: its value, clamped to the words, whether it was clamped, how many characters it
took, and the rest. -/
def readConstant (cs : List Char) : Int × Bool × List Char :=
  let (neg, body) := match cs with
    | '-' :: rest => (true, rest)
    | '+' :: rest => (false, rest)
    | _ => (false, cs)
  let (v, count, rest) := match body with
    | '0' :: x :: more =>
      if (x = 'x' ∨ x = 'X') ∧ (more.head?.bind (digitIn 16)).isSome then readDigits 16 more
      else
        let (v, k, r) := readDigits 8 (x :: more)
        (v, k + 1, r)
    | _ => readDigits 10 body
  if count = 0 then (0, false, cs)
  else
    let signed : Int := if neg then -(v : Int) else v
    if signed > wordMax then (wordMax, true, rest)
    else if signed < -wordMax - 1 then (-wordMax - 1, true, rest)
    else (signed, false, rest)

/-- Whether a character counts as a blank between numbers. -/
def isSpaceByte (c : Char) : Bool := c = ' ' ∨ (c.toNat ≥ 9 ∧ c.toNat ≤ 13)

/-- Reads the next token and the rest of the text. -/
def ArithToken.next (cs : List Char) : ArithToken × List Char :=
  let cs := cs.dropWhile (fun c => c = ' ' ∨ c = '\t' ∨ c = '\n')
  let withEq (op : BinOp) (rest : List Char) : ArithToken × List Char :=
    match rest with
    | '=' :: more => (.assign (some op), more)
    | _ => (.bin op, rest)
  match cs with
  | [] => (.eof, [])
  | c :: rest =>
    if c.isDigit then
      let (v, _, more) := readConstant cs
      (.num v, more)
    else if (c.toNat < 128 ∧ c.isAlpha) ∨ c = '_' then
      let name := cs.takeWhile (fun c => (c.toNat < 128 ∧ c.isAlphanum) ∨ c = '_')
      (.var (String.ofList name), cs.drop name.length)
    else match c, rest with
      | '=', '=' :: more => (.bin .eq, more)
      | '=', _ => (.assign none, rest)
      | '>', '=' :: more => (.bin .ge, more)
      | '>', '>' :: more => withEq .shr more
      | '>', _ => (.bin .gt, rest)
      | '<', '=' :: more => (.bin .le, more)
      | '<', '<' :: more => withEq .shl more
      | '<', _ => (.bin .lt, rest)
      | '|', '|' :: more => (.orElse, more)
      | '|', _ => withEq .bor rest
      | '&', '&' :: more => (.andAlso, more)
      | '&', _ => withEq .band rest
      | '!', '=' :: more => (.bin .ne, more)
      | '!', _ => (.bang, rest)
      | '(', _ => (.lparen, rest)
      | ')', _ => (.rparen, rest)
      | '*', _ => withEq .mul rest
      | '/', _ => withEq .div rest
      | '%', _ => withEq .rem rest
      | '+', _ => withEq .add rest
      | '-', _ => withEq .sub rest
      | '~', _ => (.tilde, rest)
      | '^', _ => withEq .bxor rest
      | '?', _ => (.question, rest)
      | ':', _ => (.colon, rest)
      | _, _ => (.bad, cs)

/-- Why an arithmetic expansion failed. -/
inductive ArithFault where
  | malformed (what : String)
  | divisionByZero
  | illegalNumber (text : String)
  | readOnly (name : String)
  deriving Inhabited, Repr

/-- The message of a fault, given the text of the expression. -/
def ArithFault.message (f : ArithFault) (text : String) : String :=
  match f with
  | .malformed what => s!"arithmetic expression: {what}: \"{text}\""
  | .divisionByZero => s!"arithmetic expression: division by zero: \"{text}\""
  | .illegalNumber t => s!"Illegal number: {t}"
  | .readOnly n => s!"{n}: is read only"

/-- What an expression reads and writes: the variables as they were, whether one is read-only,
and the assignments made so far, latest first. -/
structure ArithScope where
  lookup : String → Option String
  readOnly : String → Bool
  assigned : List (String × String) := []
  deriving Inhabited

/-- The reader of an expression: the token at hand, the text after it, and the scope. -/
structure ArithReader where
  look : ArithToken
  rest : List Char
  scope : ArithScope
  deriving Inhabited

/-- An evaluation while reading. -/
abbrev ArithM := StateT ArithReader (Except ArithFault)

namespace ArithM

/-- Moves to the next token. -/
def advance : ArithM Unit :=
  modify fun r => let (t, rest) := ArithToken.next r.rest; { r with look := t, rest := rest }

/-- The token after the one at hand, without moving. -/
def peekNext : ArithM ArithToken := do
  return (ArithToken.next (← get).rest).1

/-- The value of a variable: its text read as a constant, zero when empty or unset. -/
def valueOf (name : String) : ArithM Int := do
  let s := (← get).scope
  let text := match s.assigned.lookup name with
    | some v => some v
    | none => s.lookup name
  match text with
  | none => pure 0
  | some t =>
    let cs := t.toList.dropWhile isSpaceByte
    if cs.isEmpty then pure 0
    else
      let (v, clamped, rest) := readConstant cs
      if clamped ∨ rest.length = cs.length ∨ !(rest.all isSpaceByte) then
        throw (.illegalNumber t)
      else pure v

/-- Assigns a variable. -/
def assign (name : String) (v : Int) : ArithM Unit := do
  let r ← get
  if r.scope.readOnly name then throw (.readOnly name)
  set { r with scope := { r.scope with assigned := (name, toString v) :: r.scope.assigned } }

/-- Applies an operator unless the operands are only read. -/
def binary (op : BinOp) (a b : Int) (skip : Bool) : ArithM Int :=
  if skip then pure b
  else match op.apply a b with
    | some v => pure v
    | none => throw .divisionByZero

/-- The binary operator at hand, if the token is one. -/
def lookBin : ArithM (Option BinOp) := do
  match (← get).look with
  | .bin op => pure (some op)
  | _ => pure none

mutual

/-- A primary: a constant, a variable, a parenthesized expression, or a unary operator and a
primary. -/
def primary : Nat → Bool → ArithM Int
  | 0, _ => throw (.malformed "expecting primary")
  | fuel + 1, skip => do
    match (← get).look with
    | .lparen =>
      advance
      let v ← assignment fuel skip
      match (← get).look with
      | .rparen => advance; pure v
      | _ => throw (.malformed "expecting ')'")
    | .num v => advance; pure v
    | .var name => advance; if skip then pure 0 else valueOf name
    | .bin .add => advance; primary fuel skip
    | .bin .sub => advance; let v ← primary fuel skip; pure (wrap64 (-v))
    | .bang => advance; let v ← primary fuel skip; pure (if v = 0 then 1 else 0)
    | .tilde => advance; let v ← primary fuel skip; pure (wrap64 (-v - 1))
    | _ => throw (.malformed "expecting primary")

/-- The operators binding tighter than `limit` after a left operand `a` whose operator `op`
is at hand. -/
def binaryRest : Nat → Int → BinOp → Nat → Bool → ArithM Int
  | 0, _, _, _, _ => throw (.malformed "expecting primary")
  | fuel + 1, a, op, limit, skip => do
    advance
    let b ← primary fuel skip
    let b ← match ← lookBin with
      | some op2 =>
        if op2.prec < op.prec then binaryRest fuel b op2 op.prec skip else pure b
      | none => pure b
    let a ← binary op a b skip
    match ← lookBin with
    | some op2 => if op2.prec < limit then binaryRest fuel a op2 limit skip else pure a
    | none => pure a

/-- A chain of binary operators. -/
def binaryChain : Nat → Bool → ArithM Int
  | 0, _ => throw (.malformed "expecting primary")
  | fuel + 1, skip => do
    let a ← primary fuel skip
    match ← lookBin with
    | some op => binaryRest fuel a op 8 skip
    | none => pure a

/-- Operands joined by `&&`. -/
def conjunction : Nat → Bool → ArithM Int
  | 0, _ => throw (.malformed "expecting primary")
  | fuel + 1, skip => do
    let a ← binaryChain fuel skip
    match (← get).look with
    | .andAlso =>
      advance
      let b ← conjunction fuel (skip || a = 0)
      pure (if a ≠ 0 ∧ b ≠ 0 then 1 else 0)
    | _ => pure a

/-- Operands joined by `||`. -/
def disjunction : Nat → Bool → ArithM Int
  | 0, _ => throw (.malformed "expecting primary")
  | fuel + 1, skip => do
    let a ← conjunction fuel skip
    match (← get).look with
    | .orElse =>
      advance
      let b ← disjunction fuel (skip || a ≠ 0)
      pure (if a ≠ 0 ∨ b ≠ 0 then 1 else 0)
    | _ => pure a

/-- A conditional `a ? b : c`. -/
def conditional : Nat → Bool → ArithM Int
  | 0, _ => throw (.malformed "expecting primary")
  | fuel + 1, skip => do
    let a ← disjunction fuel skip
    match (← get).look with
    | .question =>
      advance
      let b ← assignment fuel (skip || a = 0)
      match (← get).look with
      | .colon =>
        advance
        let c ← conditional fuel (skip || a ≠ 0)
        pure (if a ≠ 0 then b else c)
      | _ => throw (.malformed "expecting ':'")
    | _ => pure a

/-- An assignment to a variable, or a conditional. -/
def assignment : Nat → Bool → ArithM Int
  | 0, _ => throw (.malformed "expecting primary")
  | fuel + 1, skip => do
    match (← get).look with
    | .var name =>
      match ← peekNext with
      | .assign op =>
        if op.all BinOp.assignable then
          advance
          advance
          let v ← assignment fuel skip
          if skip then pure v
          else
            let v ← match op with
              | some o => do binary o (← valueOf name) v false
              | none => pure v
            assign name v
            pure v
        else conditional fuel skip
      | _ => conditional fuel skip
    | _ => conditional fuel skip

end

end ArithM

/-- Evaluates the text of an arithmetic expansion: its value and the assignments it made, in
order, or the fault that stopped it. -/
def evalArith (text : String) (lookup : String → Option String) (readOnly : String → Bool) :
    Except ArithFault (Int × List (String × String)) :=
  let (t, rest) := ArithToken.next text.toList
  let start : ArithReader := { look := t, rest := rest, scope := { lookup, readOnly } }
  let run : ArithM Int := do
    let v ← ArithM.assignment (8 * (text.length + 4)) false
    match (← get).look with
    | .eof => pure v
    | _ => throw (.malformed "expecting EOF")
  match run.run start with
  | .ok (v, r) => .ok (v, r.scope.assigned.reverse)
  | .error e => .error e

end JobFlow.Shell
