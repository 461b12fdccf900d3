import LayeredConfig.Table
import LayeredConfig.Toml.Value

/-!
The flat view of a document: a table goes under the key of its name joined to the key before it,
table and array elements of an array under their index, and the scalars that stand directly in an
array are joined under the key of the array. Where two paths have the same key the later one wins.
-/

namespace LayeredConfig.Toml

def joinKey (lead name : String) : String :=
  if lead = "" then name else lead ++ "." ++ name

def directScalars : List Value → List String
  | [] => []
  | .scalar s :: rest => s.render :: directScalars rest
  | _ :: rest => directScalars rest

mutual

def Value.flatten (key : String) : Value → List (String × String)
  | .scalar s => [(key, s.render)]
  | .array items =>
    flattenItems key 0 items ++
      if directScalars items ≠ [] ∨ items.isEmpty then
        [(key, String.intercalate "," (directScalars items))]
      else []
  | .table fields => flattenFields key fields

def flattenItems (key : String) (index : Nat) : List Value → List (String × String)
  | [] => []
  | .scalar _ :: rest => flattenItems key (index + 1) rest
  | .array items :: rest =>
    Value.flatten (joinKey key (toString index)) (.array items) ++
      flattenItems key (index + 1) rest
  | .table fields :: rest =>
    Value.flatten (joinKey key (toString index)) (.table fields) ++
      flattenItems key (index + 1) rest

def flattenFields (key : String) : List (String × Value) → List (String × String)
  | [] => []
  | (name, v) :: rest => Value.flatten (joinKey key name) v ++ flattenFields key rest

end

def flat (fields : List (String × Value)) : Table String :=
  Table.ofList (flattenFields "" fields)

end LayeredConfig.Toml
