import LayeredConfig.Section.Tree
import LayeredConfig.Text.Cut

namespace LayeredConfig

structure Section where
  lead : String
  data : Table String
deriving DecidableEq

namespace Section

open LayeredConfig.Text

def isDot (c : Char) : Bool := c = '.'

def below? (lead key : List Char) : Option (List Char) :=
  if lead = [] then some key else (stripStart? lead key).bind (stripStart? ['.'])

def ofProperties (key : String) (properties : Table String) : Section :=
  let lead := trimWhile isDot key.toList
  ⟨String.ofList lead,
    Table.ofList (properties.entries.filterMap (fun e =>
      (below? lead e.1.toList).map (fun rest => (String.ofList rest, e.2))))⟩

def get? (s : Section) (key : String) : Option String := s.data.get? key

def segments (key : String) : List String :=
  ((splitAt '.' key.toList).filter (· ≠ [])).map String.ofList

def foldEntries (l : List (String × Tree)) : List (String × String) → List (String × Tree)
  | [] => l
  | (key, raw) :: rest => foldEntries (Tree.insertPath l (segments key) (Leaf.infer raw)) rest

def toTree (s : Section) : Tree := .node (foldEntries [] s.data.entries)

end Section

end LayeredConfig
