import LayeredConfig.Conversion.Rules
import LayeredConfig.Error
import LayeredConfig.Text.Quoted

/-!
Registries of converters: an ordered list for each type, of which the first that succeeds decides.
A registry keeps its lists with their types hidden, and gets a list back by asking for its type.
Copies of a registry have lists of their own and share a cache of the converters that were
discovered: those that read the written form of a type for which no converter is registered.
-/

namespace LayeredConfig

class Convertible (T : Type) where
  Carrier : T → Type
  typeName : T → String
  -- The rule that reads the written form of the values, if they have one.
  written? : (t : T) → Option (String → Option (Carrier t))
  defaults : List ((t : T) × (String → Option (Carrier t)))

instance : Convertible Target where
  Carrier := Target.Carrier
  typeName := Target.typeName
  written? := Conversion.plainRule
  defaults := Target.all.filterMap (fun t => (Conversion.defaultRule t).map (⟨t, ·⟩))

abbrev Converter {T : Type} [Convertible T] (t : T) := String → Option (Convertible.Carrier t)

abbrev ErasedList (T : Type) [Convertible T] := (t : T) × List (Converter t)

structure ConverterEntry (T : Type) [Convertible T] where
  typeName : String
  converters : ErasedList T
  count : Nat
  append : ErasedList T → ErasedList T → ErasedList T × Nat

structure RegistryOf (T : Type) [DecidableEq T] [Convertible T] where
  -- At most one entry for each type.
  entries : List (T × ConverterEntry T)
  discoveries : Nat

namespace RegistryOf

open Convertible

variable {T : Type} [DecidableEq T] [Convertible T]

def downcast {F : T → Type} (t : T) (erased : (t : T) × F t) : Option (F t) :=
  if h : erased.1 = t then some (h ▸ erased.2) else none

def appendLists (t : T) (current more : ErasedList T) : ErasedList T × Nat :=
  let list := (downcast t current).getD [] ++ (downcast t more).getD []
  (⟨t, list⟩, list.length)

section Entries

variable {α : Type}

def find? (t : T) : List (T × α) → Option α
  | [] => none
  | (u, a) :: rest => if u = t then some a else find? t rest

def put (t : T) (a : α) : List (T × α) → List (T × α)
  | [] => [(t, a)]
  | (u, b) :: rest => if u = t then (t, a) :: rest else (u, b) :: put t a rest

def drop (t : T) (entries : List (T × α)) : List (T × α) := entries.filter (fun e => e.1 ≠ t)

end Entries

def empty (discoveries : Nat) : RegistryOf T := ⟨[], discoveries⟩

instance : Inhabited (RegistryOf T) := ⟨empty 0⟩

def record? (r : RegistryOf T) (t : T) : Option (ConverterEntry T) := find? t r.entries

def register (r : RegistryOf T) (t : T) (c : Converter t) : RegistryOf T :=
  let entry := (r.record? t).getD ⟨typeName t, ⟨t, []⟩, 0, appendLists t⟩
  let list := (downcast t entry.converters).getD [] ++ [c]
  { r with entries := put t { entry with converters := ⟨t, list⟩, count := list.length } r.entries }

def mergeEntry (entries : List (T × ConverterEntry T)) (e : T × ConverterEntry T) :
    List (T × ConverterEntry T) :=
  match find? e.1 entries with
  | some existing =>
    let (converters, count) := existing.append existing.converters e.2.converters
    put e.1 { existing with converters := converters, count := count } entries
  | none => put e.1 e.2 entries

def merge (r other : RegistryOf T) : RegistryOf T :=
  { r with entries := other.entries.foldl mergeEntry r.entries }

def count (r : RegistryOf T) (t : T) : Nat := (r.record? t).elim 0 (·.count)

def isRegistered (r : RegistryOf T) (t : T) : Bool := 0 < r.count t

def removeAll (r : RegistryOf T) (t : T) : Nat × RegistryOf T :=
  (r.count t, { r with entries := drop t r.entries })

def registerDefaults (r : RegistryOf T) : RegistryOf T :=
  (defaults (T := T)).foldl (fun r e => r.register e.1 e.2) r

def withDefaults (discoveries : Nat) : RegistryOf T := (empty discoveries).registerDefaults

def typeNames (r : RegistryOf T) : List String :=
  (r.entries.map (·.2.typeName)).mergeSort (fun a b => a ≤ b)

def registered? (r : RegistryOf T) (t : T) : Option (List (Converter t)) :=
  (r.record? t).bind (fun entry => downcast t entry.converters)

def tryAll (t : T) (list : List (Converter t)) (key raw : String) :
    Except ConfigError (Carrier t) :=
  match list.findSome? (fun c => c raw) with
  | some v => .ok v
  | none => .error (.conversionFailed key raw (typeName t))

def convert (r : RegistryOf T) (t : T) (key raw : String) : Except ConfigError (Carrier t) :=
  tryAll t ((r.registered? t).getD []) key raw

abbrev Discoveries (T : Type) [Convertible T] := List (List (T × ((t : T) × Converter t)))

namespace Discoveries

def get (d : Discoveries T) (i : Nat) : List (T × ((t : T) × Converter t)) := d.getD i []

def converter (d : Discoveries T) (i : Nat) (t : T) (c : Converter t) :
    Converter t × Discoveries T :=
  match find? t (d.get i) with
  | some found => ((downcast t found).getD c, d)
  | none => (c, d.modify i (put t ⟨t, c⟩))

end Discoveries

def convertDiscovering (r : RegistryOf T) (d : Discoveries T) (t : T) (key raw : String) :
    Except ConfigError (Carrier t) × Discoveries T :=
  match r.registered? t, written? t with
  | some list, _ => (tryAll t list key raw, d)
  | none, some c =>
    let (c, d) := d.converter r.discoveries t c
    (tryAll t [c] key raw, d)
  | none, none => (tryAll t [] key raw, d)

def debugText (d : Discoveries T) (r : RegistryOf T) : String :=
  Text.record "ConverterRegistry"
    [("registered_types", Text.listed (r.typeNames.map Text.quote)),
     ("discovered", toString (d.get r.discoveries).length)]

end RegistryOf

abbrev Registry := RegistryOf Target

namespace Registry

abbrev Discoveries := RegistryOf.Discoveries Target

def empty (discoveries : Nat) : Registry := RegistryOf.empty discoveries

def withDefaults (discoveries : Nat) : Registry := RegistryOf.withDefaults discoveries

end Registry

end LayeredConfig
