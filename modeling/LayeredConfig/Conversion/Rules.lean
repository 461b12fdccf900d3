import LayeredConfig.Conversion.Target
import LayeredConfig.Number.Decimal
import LayeredConfig.Text.Cut

namespace LayeredConfig.Conversion

open LayeredConfig.Text LayeredConfig.Number

def integerRule (t : IntType) (raw : String) : Option Int :=
  let trimmed := trimList raw.toList
  let word := trimmed.map Char.toLower
  if word = ['m', 'i', 'n'] then some t.min
  else if word = ['m', 'a', 'x'] then some t.max
  else
    let (negative, body) : Bool × List Char :=
      match trimmed with
      | '-' :: rest => (true, rest)
      | '+' :: rest => (false, rest)
      | rest => (false, rest)
    let (base, digits) : Nat × List Char :=
      match body with
      | '0' :: 'x' :: rest => (16, rest)
      | '0' :: 'X' :: rest => (16, rest)
      | '#' :: rest => (16, rest)
      | rest => (10, rest)
    match digits with
    | [] => none
    | '+' :: _ => none
    | '-' :: _ => none
    | _ => readInteger t base (if negative then '-' :: digits else digits)

def booleanRule (raw : String) : Option Bool :=
  let word := String.ofList ((trimList raw.toList).map Char.toLower)
  if word ∈ ["true", "yes", "on", "1"] then some true
  else if word ∈ ["false", "no", "off", "0"] then some false
  else none

def characterRule (raw : String) : Option Char :=
  match raw.toList with
  | [c] => some c
  | _ => none

def pathRule (raw : String) : Option String :=
  let trimmed := trim raw
  if trimmed = "" then none else some trimmed

def durationParts (s : List Char) : List Char × Nat :=
  match stripEnd? ['m', 's'] s with
  | some n => (n, 1)
  | none =>
    match stripEnd? ['s'] s with
    | some n => (n, 1000)
    | none =>
      match stripEnd? ['m'] s with
      | some n => (n, 60000)
      | none =>
        match stripEnd? ['h'] s with
        | some n => (n, 3600000)
        | none => (s, 1)

def durationRule (raw : String) : Option Nat :=
  let (number, unit) := durationParts ((trimList raw.toList).map Char.toLower)
  (readInteger u64 10 (trimList number)).bind (fun n =>
    (u64.within (n * unit)).map Int.toNat)

def textsRule (raw : String) : Option (List String) :=
  if isAllBlank raw then some []
  else some ((splitAt ',' raw.toList).map (fun part => String.ofList (trimList part)))

def octet? (s : List Char) : Option Nat :=
  if 3 < s.length ∨ (1 < s.length ∧ s.head? = some '0') then none
  else (digitsValue? 10 s).filter (· ≤ 255)

def addressRule (raw : String) : Option (Nat × Nat × Nat × Nat) :=
  match splitAt '.' raw.toList with
  | [a, b, c, d] => do
    return (← octet? a, ← octet? b, ← octet? c, ← octet? d)
  | _ => none

def defaultRule : (t : Target) → Option (String → Option t.Carrier)
  | .text => some some
  | .boolean => some booleanRule
  | .integer n => some (integerRule n.type)
  | .single => some (fun raw => readFloat binary32 (trimList raw.toList))
  | .double => some (fun raw => readFloat binary64 (trimList raw.toList))
  | .character => some characterRule
  | .path => some pathRule
  | .duration => some durationRule
  | .texts => some textsRule
  | .address => none

def plainBoolean (raw : String) : Option Bool :=
  if raw = "true" then some true else if raw = "false" then some false else none

def plainRule : (t : Target) → Option (String → Option t.Carrier)
  | .text => some some
  | .boolean => some plainBoolean
  | .integer n => some (fun raw => readInteger n.type 10 raw.toList)
  | .single => some (fun raw => readFloat binary32 raw.toList)
  | .double => some (fun raw => readFloat binary64 raw.toList)
  | .character => some characterRule
  | .path => some some
  | .duration => none
  | .texts => none
  | .address => some addressRule

end LayeredConfig.Conversion
