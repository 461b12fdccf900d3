import LayeredConfig.Number.Decimal

namespace LayeredConfig.Number

def floorLog10 (n d : Nat) : Int :=
  if d ≤ n then ((Nat.toDigits 10 (n / d)).length : Int) - 1
  else
    let k := (Nat.toDigits 10 (d / n)).length
    if d ≤ n * Nat.pow 10 (k - 1) then -((k - 1 : Nat) : Int) else -(k : Int)

def BinaryFormat.quotient (f : BinaryFormat) (bits : Nat) : Nat × Nat :=
  let (m, k) := f.decompose bits
  if f.least ≤ k then (m * Nat.pow 2 (k - f.least), 1) else (m, Nat.pow 2 (f.least - k))

def BinaryFormat.inUnits (f : BinaryFormat) (bits : Nat) (unit : Int) : Nat × Nat :=
  let (n, d) := f.quotient bits
  if 0 ≤ unit then (n, d * Nat.pow 10 unit.toNat) else (n * Nat.pow 10 (-unit).toNat, d)

def passingNeighbour? (passes : Nat → Bool) (n d : Nat) : Option Nat :=
  if passes (n / d) && passes (n / d + 1) then
    if 2 * (n % d) < d then some (n / d) else some (n / d + 1)
  else if passes (n / d) then some (n / d)
  else if passes (n / d + 1) then some (n / d + 1)
  else none

def neighbour? (f : BinaryFormat) (bits : Nat) (unit : Int) : Option Nat :=
  let q := f.inUnits bits unit
  passingNeighbour? (fun m => f.ofDecimal m unit == bits) q.1 q.2

def shortestFrom (f : BinaryFormat) (bits : Nat) (unit : Int) : Nat → Option (Nat × Int)
  | 0 => none
  | more + 1 =>
    match neighbour? f bits unit with
    | some m => some (m, unit)
    | none => shortestFrom f bits (unit - 1) more

def shortest? (f : BinaryFormat) (bits : Nat) : Option (Nat × Int) :=
  let (n, d) := f.quotient bits
  shortestFrom f bits (floorLog10 n d) 800

def positional (m : Nat) (e : Int) : String :=
  let digits := Nat.toDigits 10 m
  if 0 ≤ e then String.ofList (digits ++ List.replicate e.toNat '0')
  else
    let places := (-e).toNat
    let padded := List.replicate (places + 1 - digits.length) '0' ++ digits
    String.ofList (padded.take (padded.length - places) ++
      '.' :: padded.drop (padded.length - places))

def dropZeros : Nat → Nat → Int → Nat × Int
  | 0, m, e => (m, e)
  | more + 1, m, e => if m ≠ 0 ∧ m % 10 = 0 then dropZeros more (m / 10) (e + 1) else (m, e)

def floatText (f : BinaryFormat) (bits : Nat) : String :=
  let sign := if bits / f.signBit % 2 = 1 then "-" else ""
  let size := bits % f.signBit
  if f.infinity < size then "NaN"
  else if size = f.infinity then sign ++ "inf"
  else if size = 0 then sign ++ "0"
  else
    match shortest? f size with
    | none => sign ++ "0"
    | some (m, e) =>
      let (m, e) := dropZeros 400 m e
      sign ++ positional m e

end LayeredConfig.Number
