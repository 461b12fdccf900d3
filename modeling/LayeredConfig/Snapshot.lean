import LayeredConfig.Property
import LayeredConfig.Time.Instant
import LayeredConfig.Text.Quoted

namespace LayeredConfig

structure Snapshot where
  id : Nat
  name : String
  ordinal : Int
  entries : Table String
  frozenAt : Time.Instant
deriving DecidableEq

namespace Snapshot

def configurationName : String := "<configuration>"

def value (s : Snapshot) (key : String) : Option String := s.entries.get? key

def Same (s t : Snapshot) : Prop := s.ordinal = t.ordinal ∧ s.entries = t.entries

instance (s t : Snapshot) : Decidable (Same s t) :=
  inferInstanceAs (Decidable (_ ∧ _))

def property (s : Snapshot) (key value : String) : Property :=
  (Property.of key value s.name).withMetadata "frozen_at" s.frozenAt.offsetText

def debugText (s : Snapshot) : String :=
  Text.record "FrozenSnapshot"
    [("name", Text.quote s.name), ("ordinal", toString s.ordinal),
     ("properties", toString s.entries.size), ("frozen_at", s.frozenAt.zuluText)]

end Snapshot

end LayeredConfig
