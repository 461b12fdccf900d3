import LayeredConfig.Source.Basic

namespace LayeredConfig

namespace Source

def quotedTable (t : Table String) : String :=
  Text.mapped (t.entries.map (fun e => (Text.quote e.1, Text.quote e.2)))

def guarded (content : String) : String := Text.record "RwLock" [("data", content)]

def fixed (id : Nat) (name : String) (ordinal : Int) (scannable : Bool) (values : Table String)
    (metadata : Table String) : Source :=
  let property := fun key value =>
    (Property.of key value name).withAllMetadata metadata.entries
  { id := id
    name := name
    declared := pure ordinal
    scannable := scannable
    get := fun key => pure ((values.get? key).map (property key))
    properties := pure (values.mapValues property)
    debugText := fun _ =>
      Text.record "MapPropertySource"
        [("name", Text.quote name), ("ordinal", toString ordinal),
         ("scannable", Text.truth scannable), ("values", quotedTable values),
         ("metadata", quotedTable metadata)] }

def dynamic (id : Nat) (name : String) (cell : Nat) : Source :=
  { id := id
    name := name
    declared := Reading.peek (fun s => (s.dial cell).ordinal)
    scannable := true
    get := fun key =>
      Reading.peek (fun s => ((s.dial cell).values.get? key).map (Property.of key · name))
    properties :=
      Reading.peek (fun s => (s.dial cell).values.mapValues (Property.of · · name))
    debugText := fun s =>
      Text.record "DynamicPropertySource"
        [("name", Text.quote name), ("ordinal", toString (s.dial cell).ordinal),
         ("values", guarded (quotedTable (s.dial cell).values))] }

def ofSnapshot (snapshot : Snapshot) : Source :=
  { id := snapshot.id
    name := snapshot.name
    declared := pure snapshot.ordinal
    scannable := true
    get := fun key => pure ((snapshot.value key).map (snapshot.property key))
    properties := pure (snapshot.entries.mapValues snapshot.property)
    frozen := some snapshot
    debugText := fun _ => snapshot.debugText }

def nothing (id : Nat) : Source :=
  { id := id
    name := "<empty>"
    declared := pure 0
    scannable := true
    get := fun _ => pure none
    properties := pure .empty
    debugText := fun _ => "EmptySource" }

def given (id : Nat) (name : String) (ordinal : Int) (values : Table (Option String)) : Source :=
  let property := fun key (value : Option String) => (⟨key, value, name, .empty⟩ : Property)
  { id := id
    name := name
    declared := pure ordinal
    scannable := true
    get := fun key => pure ((values.get? key).map (property key))
    properties := pure (values.mapValues property)
    debugText := fun _ => Text.record "Source" [("name", Text.quote name)] }

end Source

end LayeredConfig
