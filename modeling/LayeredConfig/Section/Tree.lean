import LayeredConfig.Number.Decimal
import LayeredConfig.Number.Integer
import LayeredConfig.Table

/-!
Trees of named values, and the folding of dotted keys into one. A key puts its value at the path of
its non-empty parts. Where a path is that of a value and also leads on to others, the tree keeps
what it leads to.
-/

namespace LayeredConfig

inductive Leaf where
  | boolean (b : Bool)
  | integer (n : Int)
  | float (bits : Nat)
  | text (s : String)
deriving DecidableEq, Repr

/-- The first of these that the whole text is: a truth value, an integer of 64 bits, a finite
floating-point number, a text. -/
def Leaf.infer (raw : String) : Leaf :=
  if raw = "true" then .boolean true
  else if raw = "false" then .boolean false
  else
    match Number.readInteger Number.i64 10 raw.toList with
    | some n => .integer n
    | none =>
      match (Number.readFloat Number.binary64 raw.toList).filter
          (Number.BinaryFormat.isFinite Number.binary64) with
      | some bits => .float bits
      | none => .text raw

inductive Tree where
  | leaf (l : Leaf)
  -- Children stand in the order of their names.
  | node (children : List (String × Tree))

namespace Tree

def children : Tree → List (String × Tree)
  | leaf _ => []
  | node l => l

def setChild (name : String) (t : Tree) (l : List (String × Tree)) : List (String × Tree) :=
  Table.insertEntry name t l

def child? (name : String) (l : List (String × Tree)) : Option Tree := Table.lookup name l

def insertPath (l : List (String × Tree)) : List String → Leaf → List (String × Tree)
  -- Put a leaf at a path below a node. A node that is there stays; a leaf on the way makes room.
  | [], _ => l
  | [name], value =>
    match child? name l with
    | some (node _) => l
    | _ => setChild name (leaf value) l
  | name :: rest, value =>
    let below :=
      match child? name l with
      | some (node children) => children
      | _ => []
    setChild name (node (insertPath below rest value)) l

def at? (t : Tree) : List String → Option Tree
  | [] => some t
  | name :: rest => (child? name t.children).bind (fun c => c.at? rest)

end Tree

end LayeredConfig
