import LayeredConfig.Source.Document
import LayeredConfig.Source.Environment

namespace LayeredConfig

structure EnvironmentSettings where
  lead : String
  separator : String
  ordinal : Option Int
deriving DecidableEq, Repr

structure FileSettings where
  path : String
  ordinal : Option Int
  name : Option String
deriving DecidableEq, Repr

structure Settings where
  defaultConverters : Bool
  environment : Option EnvironmentSettings
  files : List FileSettings
deriving DecidableEq, Repr

namespace Settings

open LayeredConfig.Toml (Value)

def parts? (names : List String) : Value → Option (List (Option Value))
  | .table fields => some (names.map (fun n => (fields.find? (·.1 = n)).map (·.2)))
  | .array items => some (names.mapIdx (fun i _ => items[i]?))
  | .scalar _ => none

def text? : Value → Option String
  | .scalar (.text s) => some s
  | _ => none

def ordinal? : Value → Option Int
  | .scalar (.integer n) => Number.i32.within n
  | _ => none

def boolean? : Value → Option Bool
  | .scalar (.boolean b) => some b
  | _ => none

def list? : Value → Option (List Value)
  | .array items => some items
  | _ => none

def optional {α : Type} (read : Value → Option α) : Option Value → Option (Option α)
  | none => some none
  | some v => (read v).map some

def environment? (v : Value) : Option EnvironmentSettings := do
  match ← parts? ["prefix", "separator", "ordinal"] v with
  | [lead, separator, ordinal] =>
    return ⟨(← optional text? lead).getD "",
      (← optional text? separator).getD Environment.defaultSeparator, ← optional ordinal? ordinal⟩
  | _ => none

def file? (v : Value) : Option FileSettings := do
  match ← parts? ["path", "ordinal", "name"] v with
  | [some path, ordinal, name] =>
    return ⟨← text? path, ← optional ordinal? ordinal, ← optional text? name⟩
  | _ => none

def ofFields? (fields : List (String × Value)) : Option Settings := do
  match ← parts? ["default_converters", "environment", "files"] (.table fields) with
  | [converters, environment, files] =>
    let files := (← optional list? files).getD []
    return ⟨(← optional boolean? converters).getD true, ← optional environment? environment,
      ← files.mapM file?⟩
  | _ => none

def parse [Toml.Reader] (content : String) : Except ConfigError Settings :=
  match Toml.Reader.read content with
  | .error cause => .error (.malformedDocument cause)
  | .ok fields =>
    match ofFields? fields with
    | some s => .ok s
    | none => .error (.malformedDocument (Toml.Reader.mismatch content))

def load [Toml.Reader] (files : Document.Files) (path : String) : Except ConfigError Settings :=
  (Document.readText files path).bind parse

end Settings

end LayeredConfig
