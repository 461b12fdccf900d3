import LayeredConfig.Resolution
import LayeredConfig.Section.Binding

/-!
Contexts: sources in the order of their registration, a filter chain and a registry of converters.
A read resolves a key among the sources, sends the result through the filters and, where a type is
asked for, converts the text.
-/

namespace LayeredConfig

structure Context where
  sources : List Source
  filters : List Filter
  registry : Registry

namespace Context

open Resolution

instance : Inhabited Context := ⟨⟨[], [], .empty 0⟩⟩

def withDefaults (discoveries : Nat) : Context := ⟨[], [], .withDefaults discoveries⟩

def source? (c : Context) (name : String) : Option Source :=
  c.sources.reverse.find? (fun s => s.name = name)

def sourceNames (c : Context) : List String := c.sources.map (·.name)

def filterNames (c : Context) : List String := c.filters.map Filter.name

def ranking (c : Context) : Reading (List (String × Int)) := do
  return (byOrdinal (← measured c.sources)).map (fun e => (e.2.name, e.1))

def property (c : Context) (key : String) : Reading (Option Property) := do
  match ← resolve (← rank c.sources) key with
  | some p => Reading.thread (applyAll c.filters p)
  | none => pure none

def get (c : Context) (key : String) : Reading (Option String) := do
  return (← c.property key).bind (·.value)

def getOr (c : Context) (key other : String) : Reading String := do
  return (← c.get key).getD other

def filterEach (filters : List Filter) :
    List (String × Property) → Reading (List (String × Property))
  | [] => pure []
  | (key, p) :: rest => do
    let passed ← Reading.thread (applyAll filters p)
    let others ← filterEach filters rest
    return match passed with
      | some q => (key, q) :: others
      | none => others

def propertyTable (c : Context) : Reading (Table Property) := do
  let all ← resolveAll (← rank c.sources)
  return Table.ofList (← filterEach c.filters all.entries)

def properties (c : Context) : Reading (Table String) := do
  return (← c.propertyTable).filterMap (fun _ p => p.value)

def getTyped (c : Context) (t : Target) (key : String) :
    Reading (Except ConfigError (Option t.Carrier)) := do
  match ← c.get key with
  | some raw => return (c.registry.convert t key raw).map some
  | none => return .ok none

def getTypedOr (c : Context) (t : Target) (key : String) (other : t.Carrier) :
    Reading (Except ConfigError t.Carrier) := do
  return (← c.getTyped t key).map (·.getD other)

def getParsed (c : Context) (t : Target) (key : String) :
    Reading (Except ConfigError (Option t.Carrier) × Registry.Discoveries) := do
  let found ← c.get key
  let d ← Reading.peek (·.discoveries)
  match found with
  | some raw =>
    let (result, d) := c.registry.convertDiscovering d t key raw
    return (result.map some, d)
  | none => return (.ok none, d)

def sectionOf (c : Context) (key : String) : Reading Section := do
  return Section.ofProperties key (← c.properties)

def snapshot (c : Context) (id : Nat) (now : Time.Instant) : Reading Snapshot := do
  return ⟨id, Snapshot.configurationName, 0, ← c.properties, now⟩

def debugText (c : Context) (s : Store) : String :=
  Text.record "ConfigurationContext"
    [("sources", Text.listed (c.sourceNames.map Text.quote)),
     ("filters", Text.listed (c.filterNames.map Text.quote)),
     ("converters", c.registry.debugText s.discoveries)]

def readerText (c : Context) (s : Store) : String :=
  Text.record "Configuration" [("context", c.debugText s)]

end Context

def Source.wrapping (id : Nat) (name : String) (ordinal : Int) (c : Context) : Source :=
  { id := id
    name := name
    declared := pure ordinal
    scannable := true
    get := fun key => do return (← c.get key).map (Property.of key · name)
    properties := do return (← c.properties).mapValues (Property.of · · name)
    debugText := fun s =>
      Text.record "ConfigWrappingPropertySource"
        [("name", Text.quote name), ("ordinal", toString ordinal),
         ("config", c.readerText s)] }

end LayeredConfig
