import LayeredConfig.Json.Document
import LayeredConfig.Number.Decimal

namespace LayeredConfig.Json

open LayeredConfig.Number

def isGap (c : Char) : Bool := c = ' ' || c = '\n' || c = '\t' || c = '\r'

def skipGaps (s : List Char) : List Char := s.dropWhile isGap

def unit? (s : List Char) : Option (Nat × List Char) :=
  match s with
  | a :: b :: c :: d :: rest => (digitsValue? 16 [a, b, c, d]).map (fun n => (n, rest))
  | _ => none

def isHigh (n : Nat) : Bool := 0xD800 ≤ n && n ≤ 0xDBFF

def isLow (n : Nat) : Bool := 0xDC00 ≤ n && n ≤ 0xDFFF

def scalar? (n : Nat) : Option Char :=
  if h : n.isValidChar then some (Char.ofNatAux n h) else none

def simpleEscape? : Char → Option Char
  | '\x22' => some '\x22'
  | '\\' => some '\\'
  | '/' => some '/'
  | 'b' => some '\x08'
  | 'f' => some '\x0c'
  | 'n' => some '\n'
  | 'r' => some '\r'
  | 't' => some '\t'
  | _ => none

def stringChars : Nat → Option (List Char) → List Char → Option (Option String × List Char)
  -- The characters up to the closing quote. What was read comes reversed, and is missing once an
  -- escape denoted no character.
  | 0, _, _ => none
  | fuel + 1, read, s =>
    match s with
    | [] => none
    | '\x22' :: rest => some (read.map (fun l => String.ofList l.reverse), rest)
    | '\\' :: 'u' :: rest =>
      (unit? rest).bind (fun first =>
        let paired : Option (Nat × List Char) :=
          match first.2 with
          | '\\' :: 'u' :: more =>
            if isHigh first.1 then (unit? more).filter (fun second => isLow second.1) else none
          | _ => none
        match paired with
        | some (low, more) =>
          let c := scalar? (0x10000 + (first.1 - 0xD800) * 0x400 + (low - 0xDC00))
          stringChars fuel (read.bind (fun l => c.map (· :: l))) more
        | none => stringChars fuel (read.bind (fun l => (scalar? first.1).map (· :: l))) first.2)
    | '\\' :: c :: rest =>
      (simpleEscape? c).bind (fun c => stringChars fuel (read.map (c :: ·)) rest)
    | c :: rest =>
      if c.toNat < 0x20 then none else stringChars fuel (read.map (c :: ·)) rest

def wholePart? (s : List Char) : Option (List Char × List Char) :=
  match s with
  | '0' :: rest =>
    match rest with
    | c :: _ => if isDecimalDigit c then none else some (['0'], rest)
    | [] => some (['0'], [])
  | _ =>
    let digits := s.takeWhile isDecimalDigit
    if digits = [] then none else some (digits, s.drop digits.length)

def skipFraction? (s : List Char) : Option (Bool × List Char) :=
  match s with
  | '.' :: rest =>
    let digits := rest.takeWhile isDecimalDigit
    if digits = [] then none else some (true, rest.drop digits.length)
  | _ => some (false, s)

def skipExponent? (s : List Char) : Option (Bool × List Char) :=
  match s with
  | 'e' :: rest | 'E' :: rest =>
    let rest :=
      match rest with
      | '+' :: more => more
      | '-' :: more => more
      | more => more
    let digits := rest.takeWhile isDecimalDigit
    if digits = [] then none else some (true, rest.drop digits.length)
  | _ => some (false, s)

def number? (s : List Char) : Option (Json × List Char) := do
  -- Minus zero is not a whole number in its plain form.
  let (negative, s) :=
    match s with
    | '-' :: rest => (true, rest)
    | _ => (false, s)
  let (whole, s) ← wholePart? s
  let (hasFraction, s) ← skipFraction? s
  let (hasExponent, s) ← skipExponent? s
  let n ← digitsValue? 10 whole
  if hasFraction || hasExponent || (negative && n == 0) then return (fraction, s)
  else return (integer (if negative then -(n : Int) else n), s)

def items (value : List Char → Option (Json × List Char)) :
    Nat → List Char → Option (List Json × List Char)
  | 0, _ => none
  | fuel + 1, s =>
    (value s).bind (fun r =>
      match skipGaps r.2 with
      | ',' :: rest => (items value fuel rest).map (fun more => (r.1 :: more.1, more.2))
      | ']' :: rest => some ([r.1], rest)
      | _ => none)

def fields (value : List Char → Option (Json × List Char)) :
    Nat → List Char → Option (List (Option String × Json) × List Char)
  | 0, _ => none
  | fuel + 1, s =>
    match skipGaps s with
    | '\x22' :: rest =>
      (stringChars (rest.length + 1) (some []) rest).bind (fun name =>
        match skipGaps name.2 with
        | ':' :: rest =>
          (value rest).bind (fun r =>
            match skipGaps r.2 with
            | ',' :: rest =>
              (fields value fuel rest).map (fun more => ((name.1, r.1) :: more.1, more.2))
            | '\x7d' :: rest => some ([(name.1, r.1)], rest)
            | _ => none)
        | _ => none)
    | _ => none

def value? : Nat → List Char → Option (Json × List Char)
  | 0, _ => none
  | depth + 1, s =>
    match skipGaps s with
    | 'n' :: 'u' :: 'l' :: 'l' :: rest => some (null, rest)
    | 't' :: 'r' :: 'u' :: 'e' :: rest => some (boolean true, rest)
    | 'f' :: 'a' :: 'l' :: 's' :: 'e' :: rest => some (boolean false, rest)
    | '\x22' :: rest =>
      (stringChars (rest.length + 1) (some []) rest).map (fun r => (text r.1, r.2))
    | '[' :: rest =>
      match skipGaps rest with
      | ']' :: more => some (array [], more)
      | _ => (items (value? depth) (rest.length + 1) rest).map (fun r => (array r.1, r.2))
    | '\x7b' :: rest =>
      match skipGaps rest with
      | '\x7d' :: more => some (object [], more)
      | _ => (fields (value? depth) (rest.length + 1) rest).map (fun r => (object r.1, r.2))
    | s => number? s

def read (content : String) : Option Json :=
  -- No document nests deeper than it is long.
  let s := content.toList
  (value? (s.length + 1) s).bind (fun r => if skipGaps r.2 = [] then some r.1 else none)

end LayeredConfig.Json
