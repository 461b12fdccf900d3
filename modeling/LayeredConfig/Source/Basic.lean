import LayeredConfig.Snapshot
import LayeredConfig.Store

/-!
Sources of properties. A source answers for single keys and for all its keys at once; one that is
not scannable may leave keys out of the latter. Its effective ordinal is what it gives itself for
the ordinal key, when that is a number, and the declared one otherwise.
-/

namespace LayeredConfig

structure Source where
  id : Nat
  name : String
  declared : Reading Int
  scannable : Bool
  get : String → Reading (Option Property)
  properties : Reading (Table Property)
  frozen : Option Snapshot := none
  debugText : Store → String

namespace Source

def ordinalKey : String := "strata.ordinal"

def readOrdinal (raw : String) : Option Int :=
  Number.readInteger Number.i32 10 (Text.trimList raw.toList)

def ordinal (s : Source) : Reading Int := do
  match ((← s.get ordinalKey).bind (·.value)).bind readOrdinal with
  | some n => pure n
  | none => s.declared

def presentEntries (t : Table Property) : Table String :=
  Table.ofList (t.values.filterMap (fun p => p.value.map (fun v => (p.key, v))))

def capture (s : Source) (id : Nat) (now : Time.Instant) : Reading Snapshot := do
  let properties ← s.properties
  return ⟨id, s.name, ← s.ordinal, presentEntries properties, now⟩

def freeze (s : Source) (id : Nat) (now : Time.Instant) : Reading Snapshot :=
  match s.frozen with
  | some snapshot => pure snapshot
  | none => s.capture id now

end Source

end LayeredConfig
