import LayeredConfig.Error
import LayeredConfig.Snapshot

namespace LayeredConfig

inductive ChangeKind where
  | added
  | updated
  | removed
deriving DecidableEq, Repr

inductive ChangeEntry where
  | added (new : String)
  | updated (old new : String)
  | removed (old : String)
deriving DecidableEq, Repr

namespace ChangeEntry

def ofValues (key : String) : Option String → Option String → Except ConfigError ChangeEntry
  | none, none => .error (.invalidChangeEntry key)
  | none, some new => .ok (added new)
  | some old, some new => .ok (updated old new)
  | some old, none => .ok (removed old)

def old? : ChangeEntry → Option String
  | added _ => none
  | updated old _ => some old
  | removed old => some old

def new? : ChangeEntry → Option String
  | added new => some new
  | updated _ new => some new
  | removed _ => none

def kind : ChangeEntry → ChangeKind
  | added _ => .added
  | updated _ _ => .updated
  | removed _ => .removed

def debugText (e : ChangeEntry) : String :=
  Text.record "ChangeEntry"
    [("old_value", Text.optional (e.old?.map Text.quote)),
     ("new_value", Text.optional (e.new?.map Text.quote))]

end ChangeEntry

inductive ResourceType where
  | propertySource
  | configuration
  | custom (name : String)
deriving DecidableEq, Repr

namespace ResourceType

def text : ResourceType → String
  | propertySource => "property-source"
  | configuration => "configuration"
  | custom name => name

def debugText : ResourceType → String
  | propertySource => "PropertySource"
  | configuration => "Configuration"
  | custom name => Text.applied "Custom" (Text.quote name)

end ResourceType

structure ChangeSet where
  type : ResourceType
  base : Option Snapshot
  version : String
  time : Time.Instant
  entries : Table ChangeEntry
deriving DecidableEq

namespace ChangeSet

def empty (type : ResourceType) (base : Option Snapshot) (version : String)
    (time : Time.Instant) : ChangeSet :=
  ⟨type, base, version, time, .empty⟩

def get? (c : ChangeSet) (key : String) : Option ChangeEntry := c.entries.get? key

def keysOf (c : ChangeSet) (kind : ChangeKind) : List String :=
  (c.entries.filter (fun _ e => e.kind == kind)).keys

def count (c : ChangeSet) (kind : ChangeKind) : Nat := (c.keysOf kind).length

def isKind (c : ChangeSet) (kind : ChangeKind) (key : String) : Bool :=
  (c.get? key).any (fun e => e.kind == kind)

def isKeyAffected (c : ChangeSet) (key : String) : Bool :=
  (c.get? key).any (fun e => e.new?.isSome)

def text (c : ChangeSet) : String :=
  "ChangeSet\x7btype=" ++ c.type.text ++ ", change-id=" ++ c.version ++ ", snapshot-id=" ++
    (c.base.map Snapshot.name).getD "<detached>" ++ ", timestamp=" ++ c.time.offsetText ++
    ", entries=" ++ toString c.entries.size ++ "\x7d"

def debugText (c : ChangeSet) : String :=
  Text.record "ChangeSet"
    [("resource_type", c.type.debugText),
     ("resource", Text.optional (c.base.map (fun s => Text.quote s.name))),
     ("version", Text.quote c.version), ("timestamp", c.time.zuluText),
     ("entries", Text.mapped (c.entries.entries.map (fun e =>
       (Text.quote e.1, e.2.debugText))))]

def applyTo (c : ChangeSet) (t : Table String) : Table String :=
  c.entries.entries.foldl (fun t e =>
    match e.2.new? with
    | some new => t.insert e.1 new
    | none => t.erase e.1) t

end ChangeSet

end LayeredConfig
