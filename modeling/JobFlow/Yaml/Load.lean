import JobFlow.Yaml.Parse
import JobFlow.Doc.Read

/-!
# Loading a YAML document

A text is loaded as its first document: the events of that document are collected until the
document ends, the stream ends, or a fault stops them, and then built into a `Doc` tree.
-/

namespace JobFlow

namespace Yaml

/-- Whether a character may appear in YAML text at all. -/
def isPrintable (c : Char) : Bool :=
  let v := c.toNat
  v = 0x09 ∨ v = 0x0A ∨ v = 0x0D ∨ (0x20 ≤ v ∧ v ≤ 0x7E) ∨ v = 0x85 ∨ (0xA0 ≤ v ∧ v ≤ 0xD7FF) ∨
    (0xE000 ≤ v ∧ v ≤ 0xFFFD) ∨ (0x10000 ≤ v ∧ v ≤ 0x10FFFF)

/-- The byte offset of the first character that may not appear in YAML text. -/
def firstControl (text : String) : Option Nat :=
  let rec go (off : Nat) : List Char → Option Nat
    | [] => none
    | c :: rest => if isPrintable c then go (off + c.utf8Size) rest else some off
  go 0 text.toList

/-- A fault of the text as a reading error, with no path or position of its own. -/
def YamlError.toDoc (e : YamlError) : DocError := { message := e.text }

/-- The events of the first document, as far as they go, with the fault that stopped them,
and whether the text goes on with another document. -/
structure Collected where
  events : List Event := []
  fault : Option DocError := none
  more : Bool := false
  deriving Inhabited

/-- The name an event gives its node, if any. -/
def anchorOf : EventKind → Option String
  | .scalar a _ _ _ => a
  | .sequenceStart a _ => a
  | .mappingStart a _ => a
  | _ => none

/-- Collects the events of the first document. -/
def collect (p : Parser) (anchors : List String) (acc : List Event) : Nat → Collected
  | 0 => { events := acc.reverse }
  | fuel + 1 =>
    match p.next with
    | .error e => { events := acc.reverse, fault := some e.toDoc }
    | .ok (_, none) => { events := acc.reverse }
    | .ok (p, some ev) =>
      match ev.kind with
      | .streamStart | .documentStart => collect p anchors acc fuel
      | .streamEnd =>
        if acc.isEmpty then { events := [⟨.scalar none none "" .plain, ev.start⟩] } else { events := acc.reverse }
      | .documentEnd =>
        let more := match p.next with
          | .ok (_, some ⟨.streamEnd, _⟩) => false
          | .ok (_, none) => false
          | _ => true
        { events := acc.reverse, more := more }
      | .alias n =>
        if anchors.contains n then collect p anchors (ev :: acc) fuel
        else { events := acc.reverse, fault := some { message := "unknown anchor", mark := some ev.start } }
      | k =>
        let anchors := match anchorOf k with
          | some a => a :: anchors
          | none => anchors
        collect p anchors (ev :: acc) fuel

/-- A collection being built: a sequence with its items so far, or a mapping with its
entries so far and possibly a key waiting for its value. -/
inductive Open where
  | seq (anchor tag : Option String) (mark : Mark) (items : List Doc)
  | map (anchor tag : Option String) (mark : Mark) (entries : List (Doc × Doc)) (key : Option Doc)

/-- How a scalar of a given style was written, as readers tell styles apart. -/
def ScalarStyle.written : ScalarStyle → Written
  | .plain => .plain
  | .single | .double => .quoted
  | .literal => .literal
  | .folded => .folded

/-- The node a scalar event stands for. -/
def scalarNode (tag : Option String) (text : String) (style : ScalarStyle) (m : Mark) : Doc :=
  .scalar (.yaml text style.written tag) (some m)

/-- The collection closed, as a node. -/
def Open.close : Open → Doc
  | .seq _ t m items => .seq items.reverse (some m) t
  | .map _ t m entries _ => .map entries.reverse (some m) t

/-- The collection with one more node: an item, a key, or the value of the waiting key. -/
def Open.add (o : Open) (d : Doc) : Open :=
  match o with
  | .seq a t m items => .seq a t m (d :: items)
  | .map a t m entries none => .map a t m entries (some d)
  | .map a t m entries (some k) => .map a t m ((k, d) :: entries) none

/-- The name of a collection being built. -/
def Open.anchor : Open → Option String
  | .seq a _ _ _ => a
  | .map a _ _ _ _ => a

/-- The state of building: the open collections, innermost first, the finished root, and the
nodes finished under a name. -/
structure Building where
  stack : List Open := []
  root : Option Doc := none
  named : List (String × Doc) := []

/-- Hands a finished node to the collection it belongs to, or makes it the root. -/
def Building.finish (b : Building) (anchor : Option String) (d : Doc) : Building :=
  let b := match anchor with
    | some a => { b with named := (a, d) :: b.named }
    | none => b
  match b.stack with
  | o :: rest => { b with stack := o.add d :: rest }
  | [] => { b with root := some d }

/-- Builds the tree of the events. -/
def Building.step (b : Building) (e : Event) : Building :=
  match e.kind with
  | .scalar a t text style => b.finish a (scalarNode t text style e.start)
  | .alias n =>
    match b.named.lookup n with
    | some d => b.finish none d
    | none => b.finish none (.broken { message := "recursion limit exceeded", mark := some e.start })
  | .sequenceStart a t => { b with stack := .seq a t e.start [] :: b.stack }
  | .mappingStart a t => { b with stack := .map a t e.start [] none :: b.stack }
  | .sequenceEnd | .mappingEnd =>
    match b.stack with
    | o :: rest => { b with stack := rest }.finish o.anchor o.close
    | [] => b
  | _ => b

/-- Closes what is still open when the events stop at a fault: the innermost collection gets
a broken node where its next item, key or value would be, and each outer one holds the cut
node as its last. -/
def cut (fault : DocError) : List Open → Doc → Doc
  | [], d => d
  | o :: rest, d => cut fault rest (o.add d).close

/-- The cut tree of a stack, from its innermost collection. -/
def cutStack (fault : DocError) : List Open → Option Doc
  | [] => none
  | o :: rest =>
    let inner := match o with
      | .map _ _ _ _ none => (o.add (.broken fault)).add (.broken fault)
      | _ => o.add (.broken fault)
    some (cut fault rest inner.close)

/-- The first document of a text as a tree, with the fault found while reading it and whether
another document follows. -/
structure Loaded where
  root : Doc
  fault : Option DocError
  more : Bool
  deriving Inhabited

/-- Loads the first document of a text. -/
def load (text : String) : Loaded :=
  match firstControl text with
  | some off =>
    let e : DocError := { message := "control characters are not allowed" ++
      (if off = 0 then "" else s!" at position {off}") }
    { root := .broken e, fault := some e, more := false }
  | none =>
    let c := collect (Parser.ofText text) [] [] (4 * text.length + 16)
    let b := c.events.foldl Building.step {}
    let root := match b.root with
      | some d => d
      | none =>
        let e := c.fault.getD { message := "EOF while parsing a value" }
        (cutStack e b.stack).getD (.broken e)
    { root := root, fault := c.fault, more := c.more }

/-- Reads a typed value out of a YAML text holding one sound document. -/
def read {α : Type} (r : String → Doc → DocRead α) (text : String) : DocRead α := do
  let l := load text
  let v ← r "." l.root
  if let some e := l.fault then throw e
  if l.more then throw { message := "deserializing from YAML containing more than one document is not supported" }
  pure v

end Yaml

end JobFlow
