import LayeredConfig.Conversion.Registry
import LayeredConfig.Filter

/-!
The contents that change while sources, registries and threads refer to them, and readings, which
see the contents and may change the filters of their thread.
-/

namespace LayeredConfig

structure Dial where
  ordinal : Int
  values : Table String
deriving Inhabited

structure Store where
  dials : List Dial
  -- For each environment source, keys with the variable and the value that they come from.
  environments : List (Table (String × String))
  documents : List (Table String)
  discoveries : Registry.Discoveries

namespace Store

def empty : Store := ⟨[], [], [], []⟩

def dial (s : Store) (i : Nat) : Dial := s.dials.getD i default

def variablesOf (s : Store) (i : Nat) : Table (String × String) := s.environments.getD i .empty

def document (s : Store) (i : Nat) : Table String := s.documents.getD i .empty

def changeDial (s : Store) (i : Nat) (f : Dial → Dial) : Store :=
  { s with dials := s.dials.modify i f }

def setVariables (s : Store) (i : Nat) (t : Table (String × String)) : Store :=
  { s with environments := s.environments.set i t }

def setDocument (s : Store) (i : Nat) (t : Table String) : Store :=
  { s with documents := s.documents.set i t }

end Store

abbrev Reading (α : Type) := ReaderT Store (StateM (List ListedFilter)) α

namespace Reading

def peek {α : Type} (f : Store → α) : Reading α := fun s => pure (f s)

def thread {α : Type} (x : Threaded α) : Reading α := fun _ => x

def run {α : Type} (x : Reading α) (s : Store) (filters : List ListedFilter) :
    α × List ListedFilter :=
  StateT.run (ReaderT.run x s) filters

end Reading

end LayeredConfig
