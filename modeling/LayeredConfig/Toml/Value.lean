import LayeredConfig.Number.Shortest
import LayeredConfig.Text.Quoted

namespace LayeredConfig.Toml

inductive Scalar where
  | text (s : String)
  | integer (n : Int)
  | float (bits : Nat)
  | boolean (b : Bool)
  | moment (s : String)
deriving DecidableEq, Repr

inductive Value where
  | scalar (s : Scalar)
  | array (items : List Value)
  | table (fields : List (String × Value))

instance : Inhabited Value := ⟨.table []⟩

def Scalar.render : Scalar → String
  | .text s => s
  | .integer n => toString n
  | .float bits => Number.floatText Number.binary64 bits
  | .boolean b => Text.truth b
  | .moment s => s

/-- Reads the fields of a document, or says why there are none. A document whose fields are not of
the kinds that are asked for is refused with the other text. -/
class Reader where
  read : String → Except String (List (String × Value))
  mismatch : String → String

end LayeredConfig.Toml
