import LayeredConfig.ChangeSet.Basic

namespace LayeredConfig

structure Draft where
  type : ResourceType
  base : Option Snapshot
  version : Option String
  time : Option Time.Instant
  entries : Table ChangeEntry

namespace Draft

def new (type : ResourceType) : Draft := ⟨type, none, none, none, .empty⟩

def withBase (type : ResourceType) (base : Snapshot) : Draft := { new type with base := some base }

def baseValue (d : Draft) (key : String) : Option String := d.base.bind (·.value key)

def record (d : Draft) (key : String) (old new : Option String) : Draft :=
  -- Note both values of a key; equal ones leave it without an entry.
  match old, new with
  | none, none => { d with entries := d.entries.erase key }
  | none, some n => { d with entries := d.entries.insert key (.added n) }
  | some o, none => { d with entries := d.entries.insert key (.removed o) }
  | some o, some n =>
    if o = n then { d with entries := d.entries.erase key }
    else { d with entries := d.entries.insert key (.updated o n) }

def set (d : Draft) (key value : String) : Draft := d.record key (d.baseValue key) (some value)

def setAll (d : Draft) (values : List (String × String)) : Draft :=
  values.foldl (fun d e => d.set e.1 e.2) d

def removeKeys (d : Draft) (keys : List String) : Draft :=
  keys.foldl (fun d key =>
    match d.baseValue key with
    | some old => d.record key (some old) none
    | none => d) d

def keysWith (d : Draft) (other : Snapshot) : List String :=
  let baseKeys := (d.base.map (fun b => b.entries.keys)).getD []
  Table.namesInOrder (baseKeys ++ other.entries.keys)

def compareWith (d : Draft) (other : Snapshot) : Draft :=
  (d.keysWith other).foldl (fun d key => d.record key (d.baseValue key) (other.value key)) d

def declare (d : Draft) (key : String) (e : ChangeEntry) : Draft :=
  { d with entries := d.entries.insert key e }

def withVersion (d : Draft) (version : String) : Draft := { d with version := some version }

def withTime (d : Draft) (time : Time.Instant) : Draft := { d with time := some time }

def build (d : Draft) (version : String) (now : Time.Instant) : ChangeSet :=
  ⟨d.type, d.base, d.version.getD version, d.time.getD now, d.entries⟩

end Draft

def diff (old new : Snapshot) (version : String) (now : Time.Instant) : ChangeSet :=
  ((Draft.withBase .propertySource old).compareWith new).build version now

def diffConfiguration (old new : Snapshot) (version : String) (now : Time.Instant) : ChangeSet :=
  ((Draft.withBase .configuration old).compareWith new).build version now

end LayeredConfig
