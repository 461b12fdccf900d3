import LayeredConfig.Time.Calendar
import LayeredConfig.Time.Instant
import LayeredConfig.Toml.Value
import LayeredConfig.Toml.Lexeme

namespace LayeredConfig.Toml

open LayeredConfig.Text LayeredConfig.Number

def digit? (base : Nat) (s : List Char) : Read Char :=
  match s with
  | c :: rest => if isDigit base c then some (c, rest) else none
  | [] => none

def moreDigits (base : Nat) : List Char → Read (List Char)
  -- Digits after the first one. An underscore must stand between two digits.
  | [] => some ([], [])
  | [c] => if isDigit base c then some ([c], []) else if c = '_' then none else some ([], [c])
  | c :: d :: rest =>
    if isDigit base c then (moreDigits base (d :: rest)).map (fun r => (c :: r.1, r.2))
    else if c = '_' then
      if isDigit base d then moreDigits base (d :: rest) else none
    else some ([], c :: d :: rest)

def digits? (base : Nat) (s : List Char) : Read (List Char) :=
  (digit? base s).bind (fun r => (moreDigits base r.2).map (fun m => (r.1 :: m.1, m.2)))

def sign (s : List Char) : List Char × List Char :=
  match s with
  | '+' :: rest => (['+'], rest)
  | '-' :: rest => (['-'], rest)
  | _ => ([], s)

def wholePart? (s : List Char) : Read (List Char) :=
  match sign s with
  | (mark, '0' :: rest) => some (mark ++ ['0'], rest)
  | (mark, rest) => (digits? 10 rest).map (fun r => (mark ++ r.1, r.2))

def exponentPart? (s : List Char) : Read (List Char) :=
  match s with
  | 'e' :: rest | 'E' :: rest =>
    let (mark, rest) := sign rest
    (digits? 10 rest).map (fun r => ('e' :: mark ++ r.1, r.2))
  | _ => none

def floatChars? (s : List Char) : Read (List Char) :=
  (wholePart? s).bind (fun whole =>
    match whole.2 with
    | '.' :: rest =>
      (digits? 10 rest).bind (fun fraction =>
        match fraction.2 with
        | 'e' :: _ | 'E' :: _ =>
          (exponentPart? fraction.2).map (fun e =>
            (whole.1 ++ '.' :: fraction.1 ++ e.1, e.2))
        | more => some (whole.1 ++ '.' :: fraction.1, more))
    | rest => (exponentPart? rest).map (fun e => (whole.1 ++ e.1, e.2)))

def specialFloat? (s : List Char) : Read (List Char) :=
  let (mark, rest) := sign s
  match rest with
  | 'i' :: 'n' :: 'f' :: more => some (mark ++ ['i', 'n', 'f'], more)
  | 'n' :: 'a' :: 'n' :: more => some (mark ++ ['n', 'a', 'n'], more)
  | _ => none

def float? (s : List Char) : Read Scalar :=
  match floatChars? s with
  | some (text, rest) =>
    ((readFloat binary64 text).filter (· ≠ binary64.infinity)).map (fun b => (.float b, rest))
  | none =>
    (specialFloat? s).bind (fun r => (readFloat binary64 r.1).map (fun b => (.float b, r.2)))

def basedInteger? (base : Nat) (s : List Char) : Read Scalar :=
  (digits? base s).bind (fun r =>
    (readInteger i64 base r.1).map (fun n => (.integer n, r.2)))

def integer? (s : List Char) : Read Scalar :=
  match s with
  | '0' :: 'x' :: rest => basedInteger? 16 rest
  | '0' :: 'o' :: rest => basedInteger? 8 rest
  | '0' :: 'b' :: rest => basedInteger? 2 rest
  | _ =>
    (wholePart? s).bind (fun r => (readInteger i64 10 r.1).map (fun n => (.integer n, r.2)))

def fixedDigits? (n : Nat) (s : List Char) : Read Nat :=
  let digits := s.take n
  if digits.length = n ∧ digits.all isDecimalDigit then
    (digitsValue? 10 digits).map (fun v => (v, s.drop n))
  else none

def atMost? (n limit : Nat) (s : List Char) : Read Nat :=
  (fixedDigits? n s).filter (fun r => r.1 ≤ limit)

def date? (s : List Char) : Option (String × List Char) := do
  let (year, s) ← fixedDigits? 4 s
  let s ← stripStart? ['-'] s
  let (month, s) ← fixedDigits? 2 s
  let s ← stripStart? ['-'] s
  let (day, s) ← fixedDigits? 2 s
  if Time.Date.isValid ⟨year, month, day⟩ then
    return (Time.padded 4 year ++ "-" ++ Time.padded 2 month ++ "-" ++ Time.padded 2 day, s)
  else none

def fractionText (digits : List Char) : String :=
  -- Digits after the ninth are dropped, and zeros at the end too.
  let kept := dropEndWhile (· = '0') (digits.take 9)
  if kept = [] then "" else String.ofList ('.' :: kept)

def timeOfDay? (s : List Char) : Option (String × List Char) := do
  let (hour, s) ← atMost? 2 23 s
  let s ← stripStart? [':'] s
  let (minute, s) ← atMost? 2 59 s
  let s ← stripStart? [':'] s
  let (second, s) ← atMost? 2 60 s
  let whole := Time.padded 2 hour ++ ":" ++ Time.padded 2 minute ++ ":" ++ Time.padded 2 second
  match s with
  | '.' :: rest =>
    let digits := rest.takeWhile isDecimalDigit
    if digits = [] then none else return (whole ++ fractionText digits, rest.drop digits.length)
  | _ => return (whole, s)

def offset? (s : List Char) : Option (String × List Char) :=
  match s with
  | 'Z' :: rest | 'z' :: rest => some ("Z", rest)
  | mark :: rest =>
    if mark = '+' ∨ mark = '-' then do
      let (hour, rest) ← atMost? 2 23 rest
      let rest ← stripStart? [':'] rest
      let (minute, rest) ← atMost? 2 59 rest
      let shown := if mark = '-' ∧ ¬ (hour = 0 ∧ minute = 0) then "-" else "+"
      return (shown ++ Time.padded 2 hour ++ ":" ++ Time.padded 2 minute, rest)
    else none
  | [] => none

def moment? (s : List Char) : Read Scalar :=
  match date? s with
  | some (date, rest) =>
    let time? : Read String :=
      match rest with
      | 'T' :: more | 't' :: more | ' ' :: more => timeOfDay? more
      | _ => none
    match time? with
    | none => some (.moment date, rest)
    | some (time, rest) =>
      match offset? rest with
      | none => some (.moment (date ++ "T" ++ time), rest)
      | some (offset, rest) => some (.moment (date ++ "T" ++ time ++ offset), rest)
  | none => (timeOfDay? s).map (fun r => (.moment r.1, r.2))

def quantity? (s : List Char) : Read Scalar :=
  match moment? s with
  | some r => some r
  | none =>
    match floatChars? s, specialFloat? s with
    | none, none => integer? s
    | _, _ => float? s

end LayeredConfig.Toml
