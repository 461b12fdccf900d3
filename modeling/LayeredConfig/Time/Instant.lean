import LayeredConfig.Time.Calendar

namespace LayeredConfig.Time

structure Instant where
  -- Seconds since day zero, leap seconds not counted.
  seconds : Int
  nanos : Nat
deriving DecidableEq, Repr

instance : Inhabited Instant := ⟨⟨0, 0⟩⟩

def padded (width n : Nat) : String :=
  let digits := Nat.toDigits 10 n
  String.ofList (List.replicate (width - digits.length) '0' ++ digits)

def yearText (y : Int) : String :=
  if 0 ≤ y ∧ y ≤ 9999 then padded 4 y.toNat
  else (if y < 0 then "-" else "+") ++ padded 4 y.natAbs

def fractionText (nanos : Nat) : String :=
  if nanos = 0 then ""
  else if nanos % 1000000 = 0 then "." ++ padded 3 (nanos / 1000000)
  else if nanos % 1000 = 0 then "." ++ padded 6 (nanos / 1000)
  else "." ++ padded 9 nanos

namespace Instant

def date (t : Instant) : Date := Date.ofDays (t.seconds.fdiv 86400)

def dateText (t : Instant) : String :=
  yearText t.date.year ++ "-" ++ padded 2 t.date.month ++ "-" ++ padded 2 t.date.day

def timeText (t : Instant) : String :=
  let s := (t.seconds - t.seconds.fdiv 86400 * 86400).toNat
  let leap := 1000000000 ≤ t.nanos
  padded 2 (s / 3600) ++ ":" ++ padded 2 (s / 60 % 60) ++ ":" ++
    padded 2 (s % 60 + if leap then 1 else 0) ++
    fractionText (if leap then t.nanos - 1000000000 else t.nanos)

def offsetText (t : Instant) : String := t.dateText ++ "T" ++ t.timeText ++ "+00:00"

def zuluText (t : Instant) : String := t.dateText ++ "T" ++ t.timeText ++ "Z"

def spacedText (t : Instant) : String := t.dateText ++ " " ++ t.timeText ++ " UTC"

structure Proper (t : Instant) : Prop where
  year : -262143 ≤ t.date.year ∧ t.date.year ≤ 262142
  nanos : t.nanos < 1000000000 ∨ t.seconds % 60 = 59 ∧ t.nanos < 2000000000

end Instant

class Reader where
  read : String → Option Instant

class LawfulReader [Reader] : Prop where
  read_zuluText : ∀ t : Instant, t.Proper → Reader.read t.zuluText = some t

end LayeredConfig.Time
