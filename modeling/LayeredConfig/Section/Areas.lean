import LayeredConfig.Table
import LayeredConfig.Text.Cut

namespace LayeredConfig

namespace Areas

open LayeredConfig.Text

def root : String := "<root>"

def parent? (key : List Char) : Option (List Char) :=
  (beforeLast? '.' key).filter (· ≠ [])

def areaOf (key : String) : String :=
  match parent? key.toList with
  | some before => String.ofList before
  | none => root

def dropEndDots (s : List Char) : List Char := dropEndWhile (· = '.') s

def isKeyIn (key area : String) : Bool :=
  let area := String.ofList (dropEndDots area.toList)
  if area = "" ∨ area = root then !key.toList.contains '.' else areaOf key = area

def isKeyInAny (key : String) (areas : List String) : Bool := areas.any (isKeyIn key)

def areas (keys : List String) : List String := Table.namesInOrder (keys.map areaOf)

theorem length_lt_of_parent? {key before : List Char} (h : parent? key = some before) :
    before.length < key.length := by
  obtain ⟨hb, _⟩ := Option.filter_eq_some_iff.1 h
  obtain ⟨after, rfl, _⟩ := beforeLast?_eq_some_iff.1 hb
  simp

def upwards (area : List Char) : List (List Char) :=
  area ::
    match _h : parent? area with
    | some above => upwards above
    | none => []
termination_by area.length
decreasing_by exact length_lt_of_parent? _h

def areasAbove (key : String) : List String :=
  let area := areaOf key
  if area = root then [root] else (upwards area.toList).map String.ofList

def transitiveAreas (keys : List String) : List String :=
  Table.namesInOrder (keys.flatMap areasAbove)

def areasWhere (test : String → Bool) (keys : List String) : List String :=
  (areas keys).filter test

def transitiveAreasWhere (test : String → Bool) (keys : List String) : List String :=
  (transitiveAreas keys).filter test

def propertiesBelow (properties : Table String) (area : String) (cut : Bool) : Table String :=
  let lead := dropEndDots area.toList ++ ['.']
  Table.ofList (properties.entries.filterMap (fun e =>
    (stripStart? lead e.1.toList).map (fun rest =>
      (if cut then String.ofList rest else e.1, e.2))))

end Areas

end LayeredConfig
