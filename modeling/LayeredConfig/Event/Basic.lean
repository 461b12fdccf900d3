import LayeredConfig.ChangeSet.Basic
import LayeredConfig.Context.Basic

namespace LayeredConfig

structure ContextChange where
  version : String
  time : Time.Instant
  added : List Source
  removed : List Source
  updated : List Source

namespace ContextChange

def affectedNames (c : ContextChange) : List String :=
  (c.added ++ c.removed ++ c.updated).map (·.name)

def staleNames (c : ContextChange) : List String := (c.removed ++ c.updated).map (·.name)

def affects (c : ContextChange) (s : Source) : Bool := c.affectedNames.contains s.name

def isEmpty (c : ContextChange) : Bool :=
  c.added.isEmpty && c.removed.isEmpty && c.updated.isEmpty

end ContextChange

inductive EventKind where
  | change
  | contextChanged
  | contextReplaced
deriving DecidableEq, Repr

namespace EventKind

def text : EventKind → String
  | change => "Change"
  | contextChanged => "ContextChanged"
  | contextReplaced => "ContextReplaced"

end EventKind

inductive Event where
  | change (c : ChangeSet)
  | contextChanged (c : ContextChange)
  | contextReplaced (version : String) (time : Time.Instant)

namespace Event

def kind : Event → EventKind
  | change _ => .change
  | contextChanged _ => .contextChanged
  | contextReplaced _ _ => .contextReplaced

def version : Event → String
  | change c => c.version
  | contextChanged c => c.version
  | contextReplaced v _ => v

def time : Event → Time.Instant
  | change c => c.time
  | contextChanged c => c.time
  | contextReplaced _ t => t

end Event

end LayeredConfig
