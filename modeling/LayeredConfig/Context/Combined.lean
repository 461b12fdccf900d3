import LayeredConfig.Context.Basic

namespace LayeredConfig

structure Combined where
  name : String
  members : List Context

namespace Combined

def add (m : Combined) (c : Context) : Combined := { m with members := m.members ++ [c] }

def firstOf (key : String) : List Context → Reading (Option String)
  | [] => pure none
  | c :: rest => do
    match ← c.get key with
    | some v => pure (some v)
    | none => firstOf key rest

def get (m : Combined) (key : String) : Reading (Option String) := firstOf key m.members.reverse

def getOr (m : Combined) (key other : String) : Reading String := do
  return (← m.get key).getD other

def typedFrom (t : Target) (key : String) (current : Option t.Carrier) :
    List Context → Reading (Except ConfigError (Option t.Carrier))
  | [] => pure (.ok current)
  | c :: rest => do
    match ← c.getTyped t key with
    | .error e => pure (.error e)
    | .ok none => typedFrom t key current rest
    | .ok (some v) => typedFrom t key (some v) rest

def getTyped (m : Combined) (t : Target) (key : String) :
    Reading (Except ConfigError (Option t.Carrier)) :=
  typedFrom t key none m.members

def getTypedOr (m : Combined) (t : Target) (key : String) (other : t.Carrier) :
    Reading (Except ConfigError t.Carrier) := do
  return (← m.getTyped t key).map (·.getD other)

def propertiesFrom (result : Table String) : List Context → Reading (Table String)
  | [] => pure result
  | c :: rest => do propertiesFrom (result.insertMany (← c.properties).entries) rest

def properties (m : Combined) : Reading (Table String) := propertiesFrom .empty m.members

end Combined

end LayeredConfig
