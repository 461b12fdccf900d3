import LayeredConfig.Table

namespace LayeredConfig

structure Property where
  key : String
  value : Option String
  source : String
  metadata : Table String
deriving DecidableEq

namespace Property

def of (key value source : String) : Property := ⟨key, some value, source, .empty⟩

def absent (key source : String) : Property := ⟨key, none, source, .empty⟩

def isPresent (p : Property) : Bool := p.value.isSome

def withValue (p : Property) (value : String) : Property := { p with value := some value }

def withMetadata (p : Property) (name text : String) : Property :=
  { p with metadata := p.metadata.insert name text }

def withAllMetadata (p : Property) (entries : List (String × String)) : Property :=
  { p with metadata := p.metadata.insertMany entries }

def text (p : Property) : String :=
  p.key ++ "=" ++ p.value.getD "<absent>" ++ " (" ++ p.source ++ ")"

end Property

end LayeredConfig
