import LayeredConfig.Source.Memory
import LayeredConfig.Text.Lowercase

namespace LayeredConfig

namespace Environment

open LayeredConfig.Text

def defaultOrdinal : Int := 300

def defaultSeparator : String := "_"

def afterLead? (lead separator var : List Char) : Option (List Char) :=
  if lead = [] then some var
  else (stripStart? lead var).bind (stripStart? separator)

def keyChars? (lead separator var : List Char) : Option (List Char) :=
  (afterLead? lead separator var).bind (fun rest =>
    let rest := dropRepeated separator rest
    if rest = [] then none else some (lowercase (replaceSeparator separator ['.'] rest)))

def key? (lead separator var : String) : Option String :=
  (keyChars? lead.toList separator.toList var.toList).map String.ofList

def load (lead separator : String) (assigned : List (String × String)) :
    Table (String × String) :=
  Table.ofList (assigned.filterMap (fun e =>
    (key? lead separator e.1).map (fun key => (key, e))))

def isNamed (name : String) (e : ByteArray × ByteArray) : Bool :=
  String.fromUTF8? e.1 == some name

def text? (e : ByteArray × ByteArray) : Option (String × String) := do
  return (← String.fromUTF8? e.1, ← String.fromUTF8? e.2)

def texts? (environment : List (ByteArray × ByteArray)) : Option (List (String × String)) :=
  environment.mapM text?

def defaultName (lead : String) : String :=
  if lead = "" then "environment" else "environment:" ++ lead

end Environment

def Source.environment (id : Nat) (name lead separator : String) (ordinal : Int) (cell : Nat) :
    Source :=
  let property := fun key (e : String × String) =>
    ((Property.of key e.2 name).withMetadata "source" "environment").withMetadata "env_var" e.1
  { id := id
    name := name
    declared := pure ordinal
    scannable := true
    get := fun key => Reading.peek (fun s => ((s.variablesOf cell).get? key).map (property key))
    properties := Reading.peek (fun s => (s.variablesOf cell).mapValues property)
    debugText := fun s =>
      let entries := Text.mapped ((s.variablesOf cell).entries.map (fun e =>
        (Text.quote e.1, "(" ++ Text.quote e.2.1 ++ ", " ++ Text.quote e.2.2 ++ ")")))
      Text.record "EnvironmentPropertySource"
        [("name", Text.quote name), ("prefix", Text.quote lead),
         ("separator", Text.quote separator), ("ordinal", toString ordinal),
         ("state", Source.guarded (Text.record "EnvironmentState" [("entries", entries)]))] }

end LayeredConfig
