import LayeredConfig.Event.Basic
import LayeredConfig.Holder

/-!
The hub: listeners, the managers that they are registered with, and the holders whose contexts they
may rebuild. A registration has an identity that its manager gives to no other one.
-/

namespace LayeredConfig

inductive Outcome where
  | done
  | failed (e : ConfigError)
  | panicked (message : Option String)

inductive Level where
  | info
  | warn
  | error
deriving DecidableEq, Repr

def Level.text : Level → String
  | .info => "INFO"
  | .warn => "WARN"
  | .error => "ERROR"

structure LogLine where
  level : Level
  message : String
deriving DecidableEq, Repr

def LogLine.text (l : LogLine) : String := l.level.text ++ " " ++ l.message

structure Failure where
  listener : String
  message : String
  panicked : Bool
deriving DecidableEq, Repr

def Failure.toError (f : Failure) : ConfigError := .listenerFailed f.listener f.message

structure Report where
  kind : EventKind
  version : String
  delivered : Nat
  skipped : Nat
  failures : List Failure
deriving DecidableEq, Repr

def Report.isSuccess (r : Report) : Bool := r.failures.isEmpty

inductive Applied where
  | unchanged (c : Context)
  | rebuilt (c : Context)
  | failed (e : ConfigError)

structure Registration where
  id : Nat
  listener : Nat
deriving DecidableEq, Repr

structure Manager where
  -- A counter of 64 bits. A `Nat` stands for it while fewer than `2 ^ 64` identities were given.
  next : Nat
  registrations : List Registration
deriving DecidableEq, Repr

def Manager.new : Manager := ⟨1, []⟩

structure View where
  listeners : List (String × Bool × List EventKind)
  managers : List (Option Manager)
  holders : List Holder
  labels : Table Nat
  memory : Table String

/-- What a listener does, one step after another. A step may depend on all that the steps before it
answered, and what is remembered is there the next time. -/
inductive Task where
  | finish (o : Outcome)
  | note (line : String) (next : Task)
  | log (line : LogLine) (next : Task)
  | look (next : View → Task)
  | remember (cell text : String) (next : Task)
  | time (next : Time.Instant → Task)
  | register (manager listener : Nat) (next : Option Nat → Task)
  | remove (manager id : Nat) (next : Bool → Task)
  | removeLabelled (manager : Nat) (label : String) (next : Bool → Task)
  | removeNamed (manager : Nat) (name : String) (next : Nat → Task)
  | clear (manager : Nat) (next : Task)
  | setEnabled (listener : Nat) (enabled : Bool) (next : Task)
  | fire (manager : Nat) (e : Event) (next : Option Report → Task)
  | apply (holder : Nat) (manager : Option Nat) (change : ContextChange) (next : Applied → Task)

structure Listener where
  name : String
  enabled : Bool
  -- The kinds of event that it wants; none stands for all.
  interested : List EventKind
  react : Event → Task

instance : Inhabited Listener := ⟨⟨"", false, [], fun _ => .finish .done⟩⟩

def Listener.considers (l : Listener) (kind : EventKind) : Bool :=
  l.enabled && (l.interested.isEmpty || l.interested.contains kind)

structure Hub where
  listeners : List Listener
  -- A manager that was dropped leaves its place.
  managers : List (Option Manager)
  holders : List Holder
  labels : Table Nat
  memory : Table String
  -- What the clock shows each time that it is read.
  clock : Nat → Time.Instant
  readings : Nat
  notes : List String
  -- Lines of managers and listeners; what holders and builders log is not among them.
  logLines : List LogLine

namespace Hub

def empty : Hub :=
  { listeners := []
    managers := []
    holders := []
    labels := .empty
    memory := .empty
    clock := fun _ => default
    readings := 0
    notes := []
    logLines := [] }

def listener (h : Hub) (i : Nat) : Listener := h.listeners.getD i default

def manager? (h : Hub) (m : Nat) : Option Manager := (h.managers[m]?).join

def live? (h : Hub) (manager : Option Nat) : Option Nat :=
  manager.filter (fun m => (h.manager? m).isSome)

def holder? (h : Hub) (i : Nat) : Option Holder := h.holders[i]?

def now (h : Hub) : Time.Instant := h.clock h.readings

def tick (h : Hub) : Hub := { h with readings := h.readings + 1 }

def view (h : Hub) : View :=
  { listeners := h.listeners.map (fun l => (l.name, l.enabled, l.interested))
    managers := h.managers
    holders := h.holders
    labels := h.labels
    memory := h.memory }

def remember (h : Hub) (cell text : String) : Hub :=
  { h with memory := h.memory.insert cell text }

def setManager (h : Hub) (m : Nat) (manager : Manager) : Hub :=
  { h with managers := h.managers.set m (some manager) }

def setHolder (h : Hub) (i : Nat) (holder : Holder) : Hub :=
  { h with holders := h.holders.set i holder }

def addNote (h : Hub) (line : String) : Hub := { h with notes := h.notes ++ [line] }

def addLog (h : Hub) (line : LogLine) : Hub := { h with logLines := h.logLines ++ [line] }

def info (h : Hub) (message : String) : Hub := h.addLog ⟨.info, message⟩

def setEnabled (h : Hub) (listener : Nat) (enabled : Bool) : Hub :=
  { h with listeners := h.listeners.modify listener (fun l => { l with enabled := enabled }) }

def idText (id : Nat) : String := "listener-" ++ toString id

def register (h : Hub) (m listener : Nat) : Option Nat × Hub :=
  match h.manager? m with
  | none => (none, h)
  | some manager =>
    let id := manager.next
    let name := (h.listener listener).name
    (some id,
      (h.info ("注册配置事件监听器: " ++ name ++ " (" ++ idText id ++ ")")).setManager m
        ⟨id + 1, manager.registrations ++ [⟨id, listener⟩]⟩)

def remove (h : Hub) (m id : Nat) : Bool × Hub :=
  match h.manager? m with
  | none => (false, h)
  | some manager =>
    if manager.registrations.any (·.id == id) then
      (true, (h.setManager m
        { manager with registrations := manager.registrations.filter (·.id ≠ id) }).info
          ("移除配置事件监听器: " ++ idText id))
    else (false, h)

def removeNamed (h : Hub) (m : Nat) (name : String) : Nat × Hub :=
  match h.manager? m with
  | none => (0, h)
  | some manager =>
    let named := fun (r : Registration) => (h.listener r.listener).name == name
    let removed := (manager.registrations.filter named).length
    let rest := manager.registrations.filter (fun r => !named r)
    let h := h.setManager m { manager with registrations := rest }
    (removed,
      if 0 < removed then
        h.info ("移除配置事件监听器: " ++ name ++ " (" ++ toString removed ++ " 个)")
      else h)

def clear (h : Hub) (m : Nat) : Hub :=
  match h.manager? m with
  | none => h
  | some manager => (h.setManager m { manager with registrations := [] }).info "已清空配置事件监听器"

def listenerNames (h : Hub) (m : Nat) : List String :=
  match h.manager? m with
  | none => []
  | some manager => manager.registrations.map (fun r => (h.listener r.listener).name)

def managerText (h : Hub) (m : Nat) : String :=
  Text.record "ConfigEventManager"
    [("listeners", Text.listed ((h.listenerNames m).map Text.quote))]

end Hub

end LayeredConfig
