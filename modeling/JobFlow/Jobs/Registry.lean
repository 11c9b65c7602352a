import JobFlow.Jobs.Runnable

/-!
# The registry of job types

Job types are registered by class name, each from a module path.
-/

namespace JobFlow

/-- A registered job type. -/
structure Registration where
  modulePath : String
  className : String
  runnable : Runnable
  deriving Inhabited

namespace Registration

/-- The qualified name `module::Class`, or the class name alone from the empty module. -/
def qualifiedName (e : Registration) : String :=
  if e.modulePath.isEmpty then e.className else e.modulePath ++ "::" ++ e.className

end Registration

/-- Registered job types by class name. -/
structure Registry where
  entries : List (String × Registration) := []
  deriving Inhabited

namespace Registry

/-- The characters before the first `::`, all of them when there is none. -/
def untilSeparator : List Char → List Char
  | [] => []
  | c :: rest => if c = ':' ∧ rest.head? = some ':' then [] else c :: untilSeparator rest

/-- Whether a text holds `::`. -/
def separatorIn : List Char → Bool
  | [] => false
  | c :: rest => (c = ':' ∧ rest.head? = some ':') || separatorIn rest

/-- Whether a name holds `::`. -/
def hasSeparator (name : String) : Bool := separatorIn name.toList

/-- The registration of a class name. -/
def find? (r : Registry) (className : String) : Option Registration := r.entries.lookup className

/-- Registers `className` from `modulePath`. -/
def register (r : Registry) (modulePath className : String) (runnable : Runnable)
    (overwrite : Bool) : Outcome Registry :=
  if className.isEmpty ∨ hasSeparator className then
    throw (.configuration s!"invalid job type name '{className}'")
  else
    let entry : Registration := ⟨modulePath, className, runnable⟩
    let replace : Registry := { entries := (r.entries.filter (·.1 != className)) ++ [(className, entry)] }
    match r.find? className with
    | some old =>
      if old.modulePath = modulePath then pure r
      else if overwrite then pure replace
      else throw (.conflict s!"job type '{className}' is already registered from '{old.modulePath}'")
    | none => pure replace

/-- Removes a class name; answers whether it was registered. -/
def unregister (r : Registry) (className : String) : Registry × Bool :=
  ({ entries := r.entries.filter (·.1 != className) }, (r.find? className).isSome)

/-- The class part of a name: what follows the `::` that ends last, the whole name without
one. -/
def classPart (name : String) : String := String.ofList (untilSeparator name.toList.reverse).reverse

/-- The job type of a class or qualified name. -/
def lookup (r : Registry) (name : String) : Outcome Runnable := do
  let some entry := r.find? (classPart name)
    | throw (.notFound s!"job type '{name}' is not registered")
  if hasSeparator name ∧ entry.qualifiedName ≠ name then
    throw (.notFound s!"job type '{name}' is registered as '{entry.qualifiedName}'")
  pure entry.runnable

/-- The qualified name of a registered class. -/
def qualifiedName (r : Registry) (className : String) : Outcome String :=
  match r.find? className with
  | some e => pure e.qualifiedName
  | none => throw (.notFound s!"job type '{className}' is not registered")

/-- Whether a class name is registered. -/
def contains (r : Registry) (className : String) : Bool := (r.find? className).isSome

/-- The registered class names, sorted. -/
def names (r : Registry) : List String :=
  (r.entries.map (·.1)).mergeSort (fun a b => decide (a ≤ b))

end Registry

end JobFlow
