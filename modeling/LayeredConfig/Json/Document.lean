import LayeredConfig.Number.Integer

namespace LayeredConfig

inductive Json where
  | null
  | boolean (b : Bool)
  | integer (n : Int)
  | fraction
  -- A text is missing where its escapes do not denote one.
  | text (s : Option String)
  | array (items : List Json)
  | object (fields : List (Option String × Json))

namespace Json

def ofText (s : String) : Json := text (some s)

def ofOption : Option String → Json
  | none => null
  | some s => ofText s

def ofFields (fields : List (String × Json)) : Json :=
  object (fields.map (fun f => (some f.1, f.2)))

def asText : Json → Option String
  | text s => s
  | _ => none

def asOptionalText : Json → Option (Option String)
  | null => some none
  | text (some s) => some (some s)
  | _ => none

def asInteger (t : Number.IntType) : Json → Option Int
  | integer n => t.within n
  | _ => none

def namedFields : List (Option String × Json) → Option (List (String × Json))
  | [] => some []
  | (none, _) :: _ => none
  | (some name, v) :: rest => (namedFields rest).map ((name, v) :: ·)

def single (name : String) (fields : List (String × Json)) : Option (Option Json) :=
  match fields.filter (·.1 = name) with
  | [] => some none
  | [f] => some (some f.2)
  | _ => none

def recordFields (names : List String) : Json → Option (List (Option Json))
  | object fields => (namedFields fields).bind (fun fields => names.mapM (single · fields))
  | array items => if items.length = names.length then some (items.map some) else none
  | _ => none

def asEntries {α : Type} (value : Json → Option α) : Json → Option (List (String × α))
  | object fields =>
    (namedFields fields).bind (fun fields =>
      fields.mapM (fun f => (value f.2).map (fun v => (f.1, v))))
  | _ => none

class Codec where
  read : String → Option Json
  write : Json → String

class LawfulCodec [Codec] : Prop where
  read_write : ∀ j, Codec.read (Codec.write j) = some j

end Json

end LayeredConfig
