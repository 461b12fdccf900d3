import LayeredConfig.Context.Combined
import LayeredConfig.Event.Listeners
import LayeredConfig.Settings

/-!
The world in which configurations live: the process environment, the files, the contents of the
sources that change, the filters of the thread and the hub of the events. Each operation takes the
world to the world afterwards.
-/

namespace LayeredConfig

structure World where
  environment : List (ByteArray × ByteArray)
  files : Document.Files
  store : Store
  threadFilters : List ListedFilter
  hub : Hub
  nextId : Nat

namespace World

abbrev Op (α : Type) := StateM World α

def shared : Nat := 0

def new (clock : Time.Instant) : World :=
  { environment := []
    files := .empty
    store := { Store.empty with discoveries := [[]] }
    threadFilters := []
    hub :=
      { Hub.empty with
        managers := [some Manager.new]
        holders := [Holder.new (Context.withDefaults 0)]
        clock := fun _ => clock }
    nextId := 0 }

def read {α : Type} (r : Reading α) : Op α := fun w =>
  let (a, filters) := Reading.run r w.store w.threadFilters
  (a, { w with threadFilters := filters })

def readAside {α : Type} (r : Reading α) : Op α := fun w => ((Reading.run r w.store []).1, w)

def onThread {α : Type} (x : Threaded α) : Op α := read (Reading.thread x)

def onHub {α : Type} (f : Hub → α × Hub) : Op α := fun w =>
  let (a, hub) := f w.hub
  (a, { w with hub := hub })

def changeHub (f : Hub → Hub) : Op Unit := modify (fun w => { w with hub := f w.hub })

def now : Op Time.Instant := onHub (fun h => (h.now, h.tick))

def newId : Op Nat := fun w => (w.nextId, { w with nextId := w.nextId + 1 })

def changeStore (f : Store → Store) : Op Unit := modify (fun w => { w with store := f w.store })

def newDiscoveries : Op Nat := do
  let n := (← get).store.discoveries.length
  changeStore (fun s => { s with discoveries := s.discoveries ++ [[]] })
  return n

def newDial (name : String) (ordinal : Int) (values : Table String) : Op (Nat × Source) := do
  let cell := (← get).store.dials.length
  changeStore (fun s => { s with dials := s.dials ++ [⟨ordinal, values⟩] })
  return (cell, Source.dynamic (← newId) name cell)

def setValue (cell : Nat) (key value : String) : Op (Option String) := do
  let old := ((← get).store.dial cell).values.get? key
  changeStore (·.changeDial cell (fun d => { d with values := d.values.insert key value }))
  return old

def removeValue (cell : Nat) (key : String) : Op (Option String) := do
  let old := ((← get).store.dial cell).values.get? key
  changeStore (·.changeDial cell (fun d => { d with values := d.values.erase key }))
  return old

def replaceValues (cell : Nat) (values : Table String) : Op Unit :=
  changeStore (·.changeDial cell (fun d => { d with values := values }))

def setOrdinal (cell : Nat) (ordinal : Int) : Op Unit :=
  changeStore (·.changeDial cell (fun d => { d with ordinal := ordinal }))

def snapshotOf (s : Source) : Op Snapshot := do read (s.freeze (← newId) (← now))

def snapshotOfContext (c : Context) : Op Snapshot := do read (c.snapshot (← newId) (← now))

def snapshotOfEntries (name : String) (ordinal : Int) (entries : Table String) : Op Snapshot := do
  return ⟨← newId, name, ordinal, entries, ← now⟩

def newVariables (t : Table (String × String)) : Op Nat := do
  let cell := (← get).store.environments.length
  changeStore (fun s => { s with environments := s.environments ++ [t] })
  return cell

def newDocument (t : Table String) : Op Nat := do
  let cell := (← get).store.documents.length
  changeStore (fun s => { s with documents := s.documents ++ [t] })
  return cell

def environmentOf (lead separator : String) (assigned : List (String × String))
    (ordinal : Option Int) (name : Option String) : Op (Nat × Source) := do
  let cell ← newVariables (Environment.load lead separator assigned)
  return (cell, Source.environment (← newId) (name.getD (Environment.defaultName lead)) lead
    separator (ordinal.getD Environment.defaultOrdinal) cell)

def readVariables : Op (Except Halt (List (String × String))) := do
  match Environment.texts? (← get).environment with
  | none => return .error .panicked
  | some assigned => return .ok assigned

def processEnvironment (lead separator : String) (ordinal : Option Int) (name : Option String) :
    Op (Except Halt (Nat × Source)) := do
  match ← readVariables with
  | .error halt => return .error halt
  | .ok assigned => return .ok (← environmentOf lead separator assigned ordinal name)

def reloadEnvironment (lead separator : String) (cell : Nat) : Op (Except Halt Unit) := do
  match ← readVariables with
  | .error halt => return .error halt
  | .ok assigned =>
    changeStore (fun s => s.setVariables cell (Environment.load lead separator assigned))
    return .ok ()

def setVariable (name value : String) : Op Unit := modify (fun w =>
  { w with environment :=
      if w.environment.any (Environment.isNamed name) then
        w.environment.map (fun e =>
          if Environment.isNamed name e then (e.1, value.toUTF8) else e)
      else w.environment ++ [(name.toUTF8, value.toUTF8)] })

def unsetVariable (name : String) : Op Unit := modify (fun w =>
  { w with environment := w.environment.filter (!Environment.isNamed name ·) })

def writeFile (path : String) (file : Document.File) : Op Unit := modify (fun w =>
  { w with files := w.files.insert path file })

def removeFile (path : String) : Op Unit := modify (fun w =>
  { w with files := w.files.erase path })

def documentOfText [Toml.Reader] (name content : String) (ordinal : Option Int) :
    Op (Except ConfigError (Nat × Source)) := do
  match Document.parse content with
  | .error e => return .error e
  | .ok t =>
    let cell ← newDocument t
    return .ok (cell, Source.document (← newId) name (ordinal.getD Document.defaultOrdinal) none
      cell)

def documentOfFile [Toml.Reader] (path : String) (ordinal : Option Int) (name : Option String) :
    Op (Except ConfigError (Nat × Source)) := do
  match Document.load (← get).files path with
  | .error e => return .error e
  | .ok t =>
    let cell ← newDocument t
    return .ok (cell, Source.document (← newId) (name.getD (Document.defaultName path))
      (ordinal.getD Document.defaultOrdinal) (some path) cell)

def reloadDocument [Toml.Reader] (path : Option String) (cell : Nat) :
    Op (Except ConfigError Unit) := do
  -- Load the document of a file again. A failed load changes nothing, and a document given as text
  -- has nothing to load.
  match path with
  | none => return .ok ()
  | some path =>
    match Document.load (← get).files path with
    | .error e => return .error e
    | .ok t =>
      changeStore (fun s => s.setDocument cell t)
      return .ok ()

def settingsOfFile [Toml.Reader] (path : String) : Op (Except ConfigError Settings) := do
  return Settings.load (← get).files path

def documentsOfFiles [Toml.Reader] : List FileSettings → Op (Except ConfigError (List Source))
  | [] => return .ok []
  | f :: rest => do
    match ← documentOfFile f.path f.ordinal f.name with
    | .error e => return .error e
    | .ok (_, s) => return (← documentsOfFiles rest).map (s :: ·)

def builderOf [Toml.Reader] (settings : Settings) : Op (Except Halt Builder) := do
  let b := Builder.empty (← newDiscoveries)
  let b := if settings.defaultConverters then b.withDefaultConverters else b
  match ← documentsOfFiles settings.files with
  | .error e => return .error (.failed e)
  | .ok sources =>
    let b := b.addSources sources
    match settings.environment with
    | none => return .ok b
    | some env =>
      let made ← processEnvironment env.lead env.separator env.ordinal none
      return made.map (fun (_, s) => b.addSource s)

def discovered (r : Registry) : Op Nat := do
  return ((← get).store.discoveries.get r.discoveries).length

def parsed (c : Context) (t : Target) (key : String) (aside : Bool) :
    Op (Except ConfigError (Option t.Carrier)) := do
  let r := c.getParsed t key
  let (result, d) ← if aside then readAside r else read r
  changeStore (fun s => { s with discoveries := d })
  return result

def discover (r : Registry) (t : Target) (key raw : String) :
    Op (Except ConfigError t.Carrier) := do
  let (result, d) := r.convertDiscovering (← get).store.discoveries t key raw
  changeStore (fun s => { s with discoveries := d })
  return result

def newListener (l : Listener) : Op Nat :=
  onHub (fun h => (h.listeners.length, { h with listeners := h.listeners ++ [l] }))

def newManager : Op Nat :=
  onHub (fun h => (h.managers.length, { h with managers := h.managers ++ [some Manager.new] }))

def dropManager (m : Nat) : Op Unit :=
  changeHub (fun h => { h with managers := h.managers.set m none })

def register (m listener : Nat) (label : Option String) : Op (Option Nat) :=
  onHub (fun h =>
    let (id, h) := h.register m listener
    match id, label with
    | some id, some label => (some id, { h with labels := h.labels.insert label id })
    | id, _ => (id, h))

def removeLabelled (m : Nat) (label : String) : Op (Option Bool) :=
  onHub (fun h =>
    match h.labels.get? label with
    | none => (none, h)
    | some id =>
      let (removed, h) := h.remove m id
      (some removed, h))

def newHolder (c : Context) : Op Nat :=
  onHub (fun h => (h.holders.length, { h with holders := h.holders ++ [Holder.new c] }))

def publish (holder : Nat) (c : Context) : Op (Option Context) :=
  onHub (fun h =>
    match h.holder? holder with
    | none => (none, h)
    | some held => (some held.current, h.setHolder holder (held.publish c)))

def held (holder : Nat) : Op (Option Holder) := do return (← get).hub.holder? holder

def update (holder : Nat) (rebuild : Context → Except ConfigError Context)
    (rivals : List Context) : Op (Option (Except ConfigError Context × Nat)) :=
  onHub (fun h =>
    match h.holder? holder with
    | none => (none, h)
    | some held =>
      let (result, attempts, held) := held.update rebuild rivals
      (some (result, attempts), h.setHolder holder held))

def apply (holder : Nat) (manager : Option Nat) (change : ContextChange) : Op Applied :=
  onHub (Hub.applyChange Hub.fire holder manager change)

def takeNotes : Op (List String) := onHub (fun h => (h.notes, { h with notes := [] }))

def takeLogLines : Op (List LogLine) := onHub (fun h => (h.logLines, { h with logLines := [] }))

def setThreadFilters (l : List ListedFilter) : Op Unit :=
  modify (fun w => { w with threadFilters := l })

def addThreadFilter (f : ListedFilter) : Op Unit := modify (fun w =>
  { w with threadFilters := w.threadFilters ++ [f] })

def insertThreadFilter (position : Nat) (f : ListedFilter) : Op Unit := modify (fun w =>
  { w with threadFilters := ThreadList.insertAt w.threadFilters position f })

def removeThreadFilter (position : Nat) : Op (Option ListedFilter) := fun w =>
  let (removed, rest) := ThreadList.removeAt w.threadFilters position
  (removed, { w with threadFilters := rest })

end World

end LayeredConfig
