import LayeredConfig.Number.Digits
import LayeredConfig.Number.Binary

namespace LayeredConfig.Number

inductive Magnitude where
  | finite (mantissa : Nat) (exponent : Int)
  | infinite
  | notANumber
deriving DecidableEq, Repr

structure Literal where
  negative : Bool
  magnitude : Magnitude
deriving DecidableEq, Repr

def isDecimalDigit (c : Char) : Bool := '0' ≤ c && c ≤ '9'

def readExponent (s : List Char) : Option Int :=
  match s with
  | [] => some 0
  | 'e' :: rest | 'E' :: rest =>
    match rest with
    | '-' :: digits => (digitsValue? 10 digits).map (fun n => -(n : Int))
    | '+' :: digits => (digitsValue? 10 digits).map (fun n => (n : Int))
    | digits => (digitsValue? 10 digits).map (fun n => (n : Int))
  | _ => none

def readPositional (s : List Char) : Option Magnitude :=
  let whole := s.takeWhile isDecimalDigit
  let rest := s.dropWhile isDecimalDigit
  let (fraction, tail) :=
    match rest with
    | '.' :: more => (more.takeWhile isDecimalDigit, more.dropWhile isDecimalDigit)
    | _ => ([], rest)
  do
    let mantissa ← digitsValue? 10 (whole ++ fraction)
    let exponent ← readExponent tail
    return .finite mantissa (exponent - fraction.length)

def readMagnitude (s : List Char) : Option Magnitude :=
  let word := String.ofList (s.map Char.toLower)
  if word = "inf" ∨ word = "infinity" then some .infinite
  else if word = "nan" then some .notANumber
  else readPositional s

def readLiteral (s : List Char) : Option Literal :=
  match s with
  | '-' :: rest => (readMagnitude rest).map (⟨true, ·⟩)
  | '+' :: rest => (readMagnitude rest).map (⟨false, ·⟩)
  | rest => (readMagnitude rest).map (⟨false, ·⟩)

def Literal.toBits (f : BinaryFormat) (l : Literal) : Nat :=
  match l.magnitude with
  | .notANumber => f.notANumber
  | .infinite => f.infinity + if l.negative then f.signBit else 0
  | .finite m e => f.ofDecimal m e + if l.negative then f.signBit else 0

def readFloat (f : BinaryFormat) (s : List Char) : Option Nat :=
  (readLiteral s).map (Literal.toBits f)

def BinaryFormat.isFinite (f : BinaryFormat) (bits : Nat) : Bool :=
  bits % f.signBit < f.infinity

def BinaryFormat.isNotANumber (f : BinaryFormat) (bits : Nat) : Bool :=
  f.infinity < bits % f.signBit

end LayeredConfig.Number
