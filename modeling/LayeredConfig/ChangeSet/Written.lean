import LayeredConfig.ChangeSet.Basic
import LayeredConfig.Json.Document

namespace LayeredConfig

def readTime [Time.Reader] (j : Json) : Option Time.Instant := j.asText.bind Time.Reader.read

namespace ChangeEntry

def toJson (e : ChangeEntry) : Json :=
  Json.ofFields [("old_value", Json.ofOption e.old?), ("new_value", Json.ofOption e.new?)]

def writtenValue : Option Json → Option (Option String)
  | none => some none
  | some j => j.asOptionalText

def ofJson? (j : Json) : Option ChangeEntry := do
  match ← j.recordFields ["old_value", "new_value"] with
  | [old, new] =>
    match ofValues "<deserialized>" (← writtenValue old) (← writtenValue new) with
    | .ok e => some e
    | .error _ => none
  | _ => none

end ChangeEntry

namespace ResourceType

def toJson : ResourceType → Json
  | propertySource => Json.ofText "PropertySource"
  | configuration => Json.ofText "Configuration"
  | custom name => Json.ofFields [("Custom", Json.ofText name)]

def ofJson? : Json → Option ResourceType
  -- The plain types are written as their names, or as objects without content.
  | .text (some "PropertySource") => some propertySource
  | .text (some "Configuration") => some configuration
  | .object [(some "PropertySource", .null)] => some propertySource
  | .object [(some "Configuration", .null)] => some configuration
  | .object [(some "Custom", .text (some name))] => some (custom name)
  | _ => none

end ResourceType

namespace ChangeSet

def toJson (c : ChangeSet) : Json :=
  Json.ofFields
    [("resource_type", c.type.toJson), ("version", Json.ofText c.version),
     ("timestamp", Json.ofText c.time.zuluText),
     ("entries", Json.ofFields (c.entries.entries.map (fun e => (e.1, e.2.toJson))))]

def ofJson? [Time.Reader] (j : Json) : Option ChangeSet := do
  match ← j.recordFields ["resource_type", "version", "timestamp", "entries"] with
  | [some type, some version, some time, some entries] =>
    return ⟨← ResourceType.ofJson? type, none, ← version.asText, ← readTime time,
      Table.ofList (← entries.asEntries ChangeEntry.ofJson?)⟩
  | _ => none

end ChangeSet

namespace Snapshot

def toJson (s : Snapshot) : Json :=
  Json.ofFields
    [("name", Json.ofText s.name), ("ordinal", Json.integer s.ordinal),
     ("properties", Json.ofFields (s.entries.entries.map (fun e => (e.1, Json.ofText e.2)))),
     ("frozen_at", Json.ofText s.frozenAt.zuluText)]

def ofJson? [Time.Reader] (id : Nat) (j : Json) : Option Snapshot := do
  match ← j.recordFields ["name", "ordinal", "properties", "frozen_at"] with
  | [some name, some ordinal, some properties, some time] =>
    return ⟨id, ← name.asText, ← ordinal.asInteger Number.i32,
      Table.ofList (← properties.asEntries Json.asText), ← readTime time⟩
  | _ => none

end Snapshot

end LayeredConfig
