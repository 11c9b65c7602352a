/-!
# JSON values

The value tree every request, record leaf and answer is made of.
-/

namespace JobFlow

/-- A JSON number: an integer in `0 ≤ n < 2^64`, a negative integer down to `-2^63`, or a
double for everything else. -/
inductive Number where
  | nat (n : Nat)
  | neg (n : Int)
  | float (f : Float)
  deriving Inhabited

/-- A JSON value; the members of an object are sorted by key and keys are unique. -/
inductive Json where
  | null
  | bool (b : Bool)
  | num (n : Number)
  | str (s : String)
  | arr (items : List Json)
  | obj (fields : List (String × Json))
  deriving Inhabited

namespace Number

/-- Numbers are equal when they have the same kind and value; doubles compare as doubles. -/
def beq : Number → Number → Bool
  | .nat a, .nat b => a == b
  | .neg a, .neg b => a == b
  | .float a, .float b => a == b
  | _, _ => false

instance : BEq Number := ⟨beq⟩

/-- The number as a double, the way a reader that wants a double sees it. -/
def toFloat : Number → Float
  | .nat n => Float.ofNat n
  | .neg n => Float.ofInt n
  | .float f => f

end Number

namespace Json

/-- A natural number as a JSON value. -/
def ofNat (n : Nat) : Json := .num (.nat n)

/-- An integer as a JSON value, negative ones kept apart from natural ones. -/
def ofInt (i : Int) : Json := if i < 0 then .num (.neg i) else .num (.nat i.toNat)

/-- An optional string, absent as `null`. -/
def ofOptString : Option String → Json
  | some s => .str s
  | none => .null

/-- An optional number, absent as `null`. -/
def ofOptNat : Option Nat → Json
  | some n => .ofNat n
  | none => .null

/-- A list of strings as a JSON array. -/
def ofStrings (xs : List String) : Json := .arr (xs.map .str)

/-- Inserts a member into a sorted member list, replacing the value of an equal key. -/
def insertField (k : String) (v : Json) : List (String × Json) → List (String × Json)
  | [] => [(k, v)]
  | (k', v') :: rest =>
    if k < k' then (k, v) :: (k', v') :: rest
    else if k = k' then (k, v) :: rest
    else (k', v') :: insertField k v rest

/-- Builds an object from members in any order; of two equal keys the later one wins. -/
def mkObj (fields : List (String × Json)) : Json :=
  .obj (fields.foldl (fun acc kv => insertField kv.1 kv.2 acc) [])

/-- The value of a member of an object. -/
def field? (j : Json) (k : String) : Option Json :=
  match j with
  | .obj fields => fields.lookup k
  | _ => none

/-- The members of an object, none for other values. -/
def fields : Json → List (String × Json)
  | .obj fields => fields
  | _ => []

/-- The text of a string value. -/
def str? : Json → Option String
  | .str s => some s
  | _ => none

/-- A non-negative integer value. -/
def nat? : Json → Option Nat
  | .num (.nat n) => some n
  | _ => none

/-- An integer value of either sign. -/
def int? : Json → Option Int
  | .num (.nat n) => some n
  | .num (.neg n) => some n
  | _ => none

/-- A boolean value. -/
def bool? : Json → Option Bool
  | .bool b => some b
  | _ => none

/-- The items of an array. -/
def arr? : Json → Option (List Json)
  | .arr xs => some xs
  | _ => none

/-- Whether the value is an object. -/
def isObj : Json → Bool
  | .obj _ => true
  | _ => false

mutual
/-- Structural equality; doubles compare as doubles. -/
def beq : Json → Json → Bool
  | .null, .null => true
  | .bool a, .bool b => a == b
  | .num a, .num b => a == b
  | .str a, .str b => a == b
  | .arr a, .arr b => beqList a b
  | .obj a, .obj b => beqFields a b
  | _, _ => false
/-- Item-wise equality of two arrays. -/
def beqList : List Json → List Json → Bool
  | [], [] => true
  | a :: as, b :: bs => beq a b && beqList as bs
  | _, _ => false
/-- Member-wise equality of two member lists. -/
def beqFields : List (String × Json) → List (String × Json) → Bool
  | [], [] => true
  | (k, a) :: as, (k', b) :: bs => k == k' && beq a b && beqFields as bs
  | _, _ => false
end

instance : BEq Json := ⟨beq⟩

/-- Sets a member of an object, turning any other value into an object first. -/
def set (j : Json) (k : String) (v : Json) : Json :=
  .obj (insertField k v j.fields)

/-- Removes a member of an object. -/
def erase (j : Json) (k : String) : Json :=
  match j with
  | .obj fields => .obj (fields.filter (fun kv => kv.1 != k))
  | other => other

mutual
/-- Merges `patch` into `base`: objects merge member by member, anything else replaces. -/
def merge : Json → Json → Json
  | .obj base, .obj patch => .obj (mergeFields base patch)
  | _, patch => patch
/-- Member-wise merge of a patch into a sorted member list. -/
def mergeFields (base : List (String × Json)) : List (String × Json) → List (String × Json)
  | [] => base
  | (k, v) :: rest =>
    let merged := match base.lookup k with
      | some old => merge old v
      | none => v
    mergeFields (insertField k merged base) rest
end

end Json

end JobFlow
