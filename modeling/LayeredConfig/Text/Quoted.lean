import LayeredConfig.Text.Ranges
import LayeredConfig.Text.Unprintable
import LayeredConfig.Text.Extending

namespace LayeredConfig.Text

def hexDigits (n : Nat) : String := String.ofList (Nat.toDigits 16 n)

def isExtending (c : Char) : Bool := 128 ≤ c.toNat && inRanges extendingRanges c

def isUnprintable (c : Char) : Bool := inRanges unprintableRanges c

def escapeChar (c : Char) : String :=
  if c = '\x00' then "\\0"
  else if c = '\t' then "\\t"
  else if c = '\r' then "\\r"
  else if c = '\n' then "\\n"
  else if c = '\x22' then "\\\""
  else if c = '\\' then "\\\\"
  else if isExtending c || isUnprintable c then
    "\\u\x7b" ++ hexDigits c.toNat ++ "\x7d"
  else String.singleton c

def quote (s : String) : String :=
  "\"" ++ String.join (s.toList.map escapeChar) ++ "\""

def listed (items : List String) : String :=
  "[" ++ String.intercalate ", " items ++ "]"

def mapped (entries : List (String × String)) : String :=
  "\x7b" ++ String.intercalate ", " (entries.map (fun e => e.1 ++ ": " ++ e.2)) ++ "\x7d"

def record (name : String) (fields : List (String × String)) : String :=
  match fields with
  | [] => name
  | _ =>
    name ++ " \x7b " ++ String.intercalate ", " (fields.map (fun f => f.1 ++ ": " ++ f.2)) ++
      " \x7d"

def applied (name : String) (argument : String) : String := name ++ "(" ++ argument ++ ")"

def optional (o : Option String) : String :=
  match o with
  | none => "None"
  | some s => applied "Some" s

def truth (b : Bool) : String := if b then "true" else "false"

end LayeredConfig.Text
