import LayeredConfig.Error
import LayeredConfig.Section.Basic

namespace LayeredConfig

abbrev Shape (α : Type) := Tree → Except String α

namespace Shape

open LayeredConfig.Number

def mismatch {α : Type} (expected : String) : Except String α :=
  .error ("invalid type, expected " ++ expected)

def ofOption {α : Type} (o : Option α) (cause : String) : Except String α :=
  o.elim (.error cause) .ok

def text : Shape String
  | .leaf (.text s) => .ok s
  | _ => mismatch "a string"

def boolean : Shape Bool
  | .leaf (.boolean b) => .ok b
  | _ => mismatch "a boolean"

def integer (t : IntType) : Shape Int
  | .leaf (.integer n) => ofOption (t.within n) "invalid value"
  | _ => mismatch "an integer"

def double : Shape Nat
  | .leaf (.float bits) => .ok bits
  | .leaf (.integer n) =>
    .ok (binary64.ofDecimal n.natAbs 0 + if n < 0 then binary64.signBit else 0)
  | _ => mismatch "f64"

def any : Shape Tree := .ok

def word {α : Type} (words : List (String × α)) : Shape α
  | .leaf (.text s) => ofOption ((words.find? (·.1 = s)).map (·.2)) ("unknown variant " ++ s)
  | _ => mismatch "a variant"

def node : Shape (List (String × Tree))
  | .node children => .ok children
  | .leaf _ => mismatch "a map"

def field {α : Type} (name : String) (shape : Shape α) (children : List (String × Tree)) :
    Except String α :=
  (ofOption (Tree.child? name children) ("missing field " ++ name)).bind shape

def optionalField {α : Type} (name : String) (shape : Shape α)
    (children : List (String × Tree)) : Except String (Option α) :=
  match Tree.child? name children with
  | none => .ok none
  | some t => (shape t).map some

def fieldOr {α : Type} (name : String) (shape : Shape α) (other : α)
    (children : List (String × Tree)) : Except String α :=
  (optionalField name shape children).map (·.getD other)

def table {α : Type} (shape : Shape α) : Shape (List (String × α)) := fun t =>
  (node t).bind (fun children =>
    children.mapM (fun e => (shape e.2).map (fun v => (e.1, v))))

end Shape

def Section.bind {α : Type} (s : Section) (shape : Shape α) : Except ConfigError α :=
  (shape s.toTree).mapError .shapeMismatch

end LayeredConfig
