import LayeredConfig.Source.Basic

namespace LayeredConfig

namespace Source

def filtered (id : Nat) (inner : Source) (keep : String → Bool) : Source :=
  let name := "filtered:" ++ inner.name
  { id := id
    name := name
    declared := inner.ordinal
    scannable := inner.scannable
    get := fun key => if keep key then inner.get key else pure none
    properties := do return (← inner.properties).filter (fun key _ => keep key)
    debugText := fun s =>
      Text.record "FilteredPropertySource"
        [("name", Text.quote name), ("inner", inner.debugText s)] }

def addEntries (overriding : Bool) (name : String) (items : Table String) (t : Table Property) :
    Table Property :=
  items.entries.foldl (fun t e =>
    if overriding || !((t.get? e.1).any Property.isPresent) then
      t.insert e.1 (Property.of e.1 e.2 name)
    else t) t

def enriched (id : Nat) (inner : Source) (items : Table String) (overriding : Bool) : Source :=
  let name := "enriched:" ++ inner.name
  let addition := fun key => (items.get? key).map (Property.of key · name)
  { id := id
    name := name
    declared := inner.ordinal
    scannable := inner.scannable
    get := fun key => do
      let original := (← inner.get key).filter Property.isPresent
      return if overriding then (addition key).or original else original.or (addition key)
    properties := do return addEntries overriding name items (← inner.properties)
    debugText := fun s =>
      Text.record "EnrichedPropertySource"
        [("name", Text.quote name), ("inner", inner.debugText s),
         ("additions", Text.mapped (items.entries.map (fun e => (Text.quote e.1, Text.quote e.2)))),
         ("overriding", Text.truth overriding)] }

end Source

end LayeredConfig
