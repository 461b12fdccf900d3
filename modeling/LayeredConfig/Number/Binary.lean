namespace LayeredConfig.Number

/-- The significand has `precision` bits, the leading one included; the least positive value is
two to the power `-least`; the pattern has `width` bits. -/
structure BinaryFormat where
  precision : Nat
  least : Nat
  width : Nat
deriving DecidableEq, Repr

def binary64 : BinaryFormat := ⟨53, 1074, 64⟩

def binary32 : BinaryFormat := ⟨24, 149, 32⟩

namespace BinaryFormat

variable (f : BinaryFormat)

def infinity : Nat := (Nat.pow 2 (f.width - f.precision) - 1) * Nat.pow 2 (f.precision - 1)

def signBit : Nat := Nat.pow 2 (f.width - 1)

def notANumber : Nat := f.infinity + Nat.pow 2 (f.precision - 2)

def decompose (bits : Nat) : Nat × Nat :=
  -- The value of a finite positive pattern is the first part times two to the power of the second
  -- part less `least`.
  let fraction := bits % Nat.pow 2 (f.precision - 1)
  let exponent := bits / Nat.pow 2 (f.precision - 1)
  if exponent = 0 then (fraction, 0) else (fraction + Nat.pow 2 (f.precision - 1), exponent - 1)

end BinaryFormat

def roundHalfEven (n d : Nat) : Nat :=
  let q := n / d
  let r := n % d
  if 2 * r < d then q
  else if d < 2 * r then q + 1
  else if q % 2 = 0 then q else q + 1

def floorLog2 (n d : Nat) : Int :=
  let l : Int := (n.log2 : Int) - d.log2
  let reaches : Bool :=
    if 0 ≤ l then d * Nat.pow 2 l.toNat ≤ n else d ≤ n * Nat.pow 2 (-l).toNat
  if reaches then l else l - 1

namespace BinaryFormat

def ofQuotient (f : BinaryFormat) (n d : Nat) : Nat :=
  let unit : Int := max (floorLog2 n d - (f.precision - 1 : Nat)) (-(f.least : Int))
  let significand :=
    if 0 ≤ unit then roundHalfEven n (d * Nat.pow 2 unit.toNat)
    else roundHalfEven (n * Nat.pow 2 (-unit).toNat) d
  min ((unit + f.least).toNat * Nat.pow 2 (f.precision - 1) + significand) f.infinity

def ofDecimal (f : BinaryFormat) (m : Nat) (e : Int) : Nat :=
  -- The pattern nearest to `m` times ten to the power `e`. Far out of range the answer is known
  -- without computing the power.
  if m = 0 then 0
  else
    let magnitude := ((Nat.toDigits 10 m).length : Int) + e
    if 400 < magnitude then f.infinity
    else if magnitude < -400 then 0
    else if 0 ≤ e then f.ofQuotient (m * Nat.pow 10 e.toNat) 1
    else f.ofQuotient m (Nat.pow 10 (-e).toNat)

end BinaryFormat

end LayeredConfig.Number
