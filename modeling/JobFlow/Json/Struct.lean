import JobFlow.Json.Read
import JobFlow.Doc

/-!
# Reading a struct of texts from JSON text

Some records store small structs of texts as JSON text and read them back straight from
the bytes, so a fault names the place in the text where reading stopped.
-/

namespace JobFlow

namespace Json.Reader

/-- What a text member is: its name and whether it may be `null` or missing. -/
structure TextField where
  name : String
  optional : Bool
  deriving DecidableEq, Inhabited, Repr

/-- The fault of a value of the wrong type starting at `i`, which is read first when it is
a literal, a number or a string: `invalid type: ..., expected exp`. -/
def invalidType (b : ByteArray) (i : Nat) (exp : String) : ReadError :=
  let msg (found : String) := s!"invalid type: {found}, expected {exp}"
  let after (r : Except ReadError (Json × Nat)) (found : String) : ReadError :=
    match r with
    | .error e => e
    | .ok (_, j) => errAt b j (msg found)
  match byte? b i with
  | none => peekErr b i "EOF while parsing a value"
  | some c =>
    if c = 110 then after (literal b (i + 1) [117, 108, 108] .null) "null"
    else if c = 116 then after (literal b (i + 1) [114, 117, 101] (.bool true)) "boolean `true`"
    else if c = 102 then after (literal b (i + 1) [97, 108, 115, 101] (.bool false)) "boolean `false`"
    else if c = 45 ∨ isDigit c then
      match number b (c = 45) (if c = 45 then i + 1 else i) with
      | .error e => e
      | .ok (n, j) =>
        let found := match n with
          | .nat k => Found.unsigned k
          | .neg k => Found.signed k
          | .float f => Found.float f
        errAt b j (msg (found.text true))
    else if c = 34 then
      match string b (i + 1) with
      | .error e => e
      | .ok (s, j) => errAt b j (msg ((Found.str s).text true))
    else if c = 91 then errAt b i (msg "sequence")
    else if c = 123 then errAt b i (msg "map")
    else peekErr b i "expected value"

/-- A text member's value at or after `i`. -/
def textAt (b : ByteArray) (i : Nat) : Except ReadError (String × Nat) :=
  let i := skipWs b i
  match byte? b i with
  | some 34 => string b (i + 1)
  | _ => throw (invalidType b i "a string")

/-- A member's value at or after `i`: a text, or `null` when the member is optional. -/
def fieldAt (f : TextField) (b : ByteArray) (i : Nat) : Except ReadError (Option String × Nat) := do
  let i := skipWs b i
  if f.optional ∧ byte? b i = some 110 then
    let (_, j) ← literal b (i + 1) [117, 108, 108] .null
    pure (none, j)
  else
    let (s, j) ← textAt b i
    pure (some s, j)

/-- The index after a value at or after `i` that is skipped. -/
def skipAt (b : ByteArray) (i : Nat) : Except ReadError Nat := do
  let (_, j) ← value b 127 i (2 * b.size + 4)
  pure j

/-- The slots of the members read so far, `none` for a member not seen yet. -/
abbrev Slots := List (Option (Option String))

/-- The members of an object from index `i`, after `{` or after a member; answers the slots
and the index of the closing brace. -/
def structMembers (fields : List TextField) (b : ByteArray) (i : Nat) (first : Bool) (slots : Slots) :
    Nat → Except ReadError (Slots × Nat)
  | 0 => throw (errAt b i "recursion limit exceeded")
  | fuel + 1 => do
    let i := skipWs b i
    match byte? b i with
    | none => throw (peekErr b i "EOF while parsing an object")
    | some c =>
      if c = 125 then pure (slots, i)
      else
        let start ← if first then pure i
          else if c = 44 then pure (skipWs b (i + 1))
          else throw (peekErr b i "expected `,` or `\x7d`")
        match byte? b start with
        | none => throw (peekErr b start "EOF while parsing a value")
        | some 125 => throw (peekErr b start "trailing comma")
        | some 34 => do
          let (k, j) ← string b (start + 1)
          let slot := fields.findIdx? (·.name = k)
          if let some n := slot then
            if (slots.getD n none).isSome then
              throw (errAt b (skipWs b j) s!"duplicate field `{k}`")
          let j := skipWs b j
          match byte? b j with
          | some 58 =>
            match slot with
            | some n =>
              let (v, l) ← fieldAt (fields.getD n default) b (j + 1)
              structMembers fields b l false (slots.set n (some v)) fuel
            | none =>
              let l ← skipAt b (j + 1)
              structMembers fields b l false slots fuel
          | some _ => throw (peekErr b j "expected `:`")
          | none => throw (peekErr b j "EOF while parsing an object")
        | some _ => throw (peekErr b start "key must be a string")

/-- The members of an array holding a struct's members in order, from index `i` after `[`;
answers the values read, fewer than the members when the array ends early, and the index
where the array should end. -/
def structItems (b : ByteArray) (i : Nat) (first : Bool) :
    List TextField → Except ReadError (List (Option String) × Nat)
  | [] => pure ([], i)
  | f :: fs => do
    let i := skipWs b i
    match byte? b i with
    | none => throw (peekErr b i "EOF while parsing a list")
    | some c =>
      if c = 93 then pure ([], i)
      else
        let start ← if first then pure i
          else if c = 44 then pure (skipWs b (i + 1))
          else throw (peekErr b i "expected `,` or `]`")
        match byte? b start with
        | none => throw (peekErr b start "EOF while parsing a value")
        | some 93 => throw (peekErr b start "trailing comma")
        | some _ => do
          let (v, j) ← fieldAt f b start
          let (vs, k) ← structItems b j false fs
          pure (v :: vs, k)

/-- The end of an array holding a struct, at or after `i`; answers the index after `]`. -/
def structEnd (b : ByteArray) (i : Nat) : Except ReadError Nat :=
  let i := skipWs b i
  match byte? b i with
  | some 93 => pure (i + 1)
  | some 44 =>
    let j := skipWs b (i + 1)
    if byte? b j = some 93 then throw (peekErr b j "trailing comma")
    else throw (peekErr b j "trailing characters")
  | some _ => throw (peekErr b i "trailing characters")
  | none => throw (peekErr b i "EOF while parsing a list")

/-- Reads the struct `name` with the given members from JSON text; answers each member's
value in order, `none` for an optional member that is missing or `null`. -/
def textStruct (name : String) (fields : List TextField) (b : ByteArray) :
    Except ReadError (List (Option String)) := do
  let i := skipWs b 0
  let (vals, j) ← match byte? b i with
    | some 123 => do
      let (slots, e) ← structMembers fields b (i + 1) true (fields.map (fun _ => none)) (b.size + 1)
      let missing := (fields.zip slots).find? (fun p => !p.1.optional ∧ p.2.isNone)
      if let some (f, _) := missing then throw (errAt b (e + 1) s!"missing field `{f.name}`")
      pure (slots.map (fun s => s.getD none), e + 1)
    | some 91 => do
      let (vs, e) ← structItems b (i + 1) true fields
      if vs.length < fields.length then
        let e' := match structEnd b e with
          | .ok k => k
          | .error _ => skipWs b e
        throw (errAt b e' s!"invalid length {vs.length}, expected struct {name} with {fields.length} elements")
      let k ← structEnd b e
      pure (vs, k)
    | _ => throw (invalidType b i s!"struct {name}")
  let k := skipWs b j
  if k < b.size then throw (peekErr b k "trailing characters")
  pure vals

end Json.Reader

end JobFlow
