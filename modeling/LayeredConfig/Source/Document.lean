import LayeredConfig.Source.Memory
import LayeredConfig.Toml.Flat

namespace LayeredConfig

namespace Document

def defaultOrdinal : Int := 100

def parse [Toml.Reader] (content : String) : Except ConfigError (Table String) :=
  match Toml.Reader.read content with
  | .ok fields => .ok (Toml.flat fields)
  | .error cause => .error (.malformedDocument cause)

-- What reading a file gives: its bytes, or why they cannot be read.
abbrev File := Except String ByteArray

abbrev Files := Table File

def noSuchFile : String := "No such file or directory (os error 2)"

def notText : String := "stream did not contain valid UTF-8"

def readText (files : Files) (path : String) : Except ConfigError String :=
  match files.get? path with
  | none => .error (.fileUnreadable noSuchFile)
  | some (.error cause) => .error (.fileUnreadable cause)
  | some (.ok bytes) =>
    match String.fromUTF8? bytes with
    | none => .error (.fileUnreadable notText)
    | some content => .ok content

def load [Toml.Reader] (files : Files) (path : String) : Except ConfigError (Table String) :=
  (readText files path).bind parse

def defaultName (path : String) : String := "toml:" ++ path

end Document

def Source.document (id : Nat) (name : String) (ordinal : Int) (path : Option String)
    (cell : Nat) : Source :=
  { id := id
    name := name
    declared := pure ordinal
    scannable := true
    get := fun key =>
      Reading.peek (fun s => ((s.document cell).get? key).map (Property.of key · name))
    properties := Reading.peek (fun s => (s.document cell).mapValues (Property.of · · name))
    debugText := fun s =>
      Text.record "TomlPropertySource"
        [("name", Text.quote name), ("ordinal", toString ordinal),
         ("file_path", Text.optional (path.map Text.quote)),
         ("values", Source.guarded (Source.quotedTable (s.document cell)))] }

end LayeredConfig
