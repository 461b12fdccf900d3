import LayeredConfig.Number.Digits
import LayeredConfig.Text.Blank
import LayeredConfig.Text.Cut
import LayeredConfig.Time.Instant

namespace LayeredConfig.Time

open LayeredConfig.Text LayeredConfig.Number

def isTimeDigit (c : Char) : Bool := '0' ≤ c && c ≤ '9'

def number? (width : Nat) (s : List Char) : Option (Nat × List Char) :=
  let digits := (s.take width).takeWhile isTimeDigit
  (digitsValue? 10 digits).map (fun n => (n, s.drop digits.length))

def skipBlanks (s : List Char) : List Char := s.dropWhile isBlank

def field? (s : List Char) : Option (Nat × List Char) := number? 2 (skipBlanks s)

def year? (s : List Char) : Option (Int × List Char) :=
  match skipBlanks s with
  | '-' :: rest => (number? rest.length rest).map (fun r => (-(r.1 : Int), r.2))
  | '+' :: rest => (number? rest.length rest).map (fun r => ((r.1 : Int), r.2))
  | rest => (number? 4 rest).map (fun r => ((r.1 : Int), r.2))

def literal? (c : Char) (s : List Char) : Option (List Char) := stripStart? [c] (skipBlanks s)

def fraction? (s : List Char) : Option (Nat × List Char) :=
  match s with
  | '.' :: rest => do
    let (n, more) ← number? 9 rest
    return (n * Nat.pow 10 (9 - (rest.length - more.length)), more.dropWhile isTimeDigit)
  | _ => some (0, s)

def signedOffset? (negative : Bool) (s : List Char) : Option (Int × List Char) :=
  match s with
  | h :: h' :: rest =>
    match rest.dropWhile (fun c => c = ':' || isBlank c) with
    | m :: m' :: tail => do
      let hours ← digitsValue? 10 [h, h']
      let minutes ← digitsValue? 10 [m, m']
      if 60 ≤ minutes then none
      else
        let seconds : Int := (hours * 3600 + minutes * 60 : Nat)
        return (if negative then -seconds else seconds, tail)
    | _ => none
  | _ => none

def offset? (s : List Char) : Option (Int × List Char) :=
  if (s.take 3).map Char.toUpper = ['U', 'T', 'C'] then some (0, s.drop 3)
  else
    match s with
    | 'Z' :: rest | 'z' :: rest => some (0, rest)
    | '+' :: rest => signedOffset? false rest
    | '-' :: rest | '−' :: rest => signedOffset? true rest
    | _ => none

def Instant.ofParts? (d : Date) (hour minute second nanos : Nat) (offset : Int) :
    Option Instant :=
  if d.isValid ∧ -262143 ≤ d.year ∧ d.year ≤ 262142 ∧ hour < 24 ∧ minute < 60 ∧ second ≤ 60 ∧
      -86400 < offset ∧ offset < 86400 then
    let leap := second = 60
    let ofDay : Nat := hour * 3600 + minute * 60 + if leap then 59 else second
    some ⟨d.toDays * 86400 + ofDay - offset, nanos + if leap then 1000000000 else 0⟩
  else none

def readInstantList (s : List Char) : Option Instant := do
  let (year, s) ← year? s
  let s ← literal? '-' s
  let (month, s) ← field? s
  let s ← literal? '-' s
  let (day, s) ← field? s
  let s ←
    match s with
    | 't' :: rest | 'T' :: rest | ' ' :: rest => some rest
    | _ => none
  let (hour, s) ← field? s
  let s ← literal? ':' s
  let (minute, s) ← field? s
  let s ← literal? ':' s
  let (second, s) ← field? s
  let (nanos, s) ← fraction? s
  let (offset, s) ← offset? (skipBlanks s)
  if skipBlanks s = [] then Instant.ofParts? ⟨year, month, day⟩ hour minute second nanos offset
  else none

def readInstant (s : String) : Option Instant := readInstantList s.toList

instance : Reader := ⟨readInstant⟩

end LayeredConfig.Time
