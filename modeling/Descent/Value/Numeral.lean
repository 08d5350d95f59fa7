/-! Decimal numerals read into doubles the way the JSON reader reads them. The digits are
gathered into a significand of at most 64 bits. An integer digit that no longer fits is dropped
but still scales the value by ten; a fraction digit that no longer fits is dropped together with
every fraction digit after it. The significand, rounded to a double, is then multiplied or
divided in one rounded step by the double nearest to a power of ten, so the result may differ
from the double nearest to the numeral in its last place. -/

namespace Descent

namespace Numeral

def wordMax : Nat := 18446744073709551615

def fitsDigit (sig d : Nat) : Bool := decide (sig * 10 + d ≤ wordMax)

/-- Integer digits gathered into a significand and a power of ten. From the first digit that
would take the significand past 64 bits on, each digit only raises the power. The flag tells
whether a digit was dropped. -/
def gatherInt : List Nat → Nat → Int → Bool → Nat × Int × Bool
  | [], sig, e, full => (sig, e, full)
  | d :: ds, sig, e, full =>
    if !full && fitsDigit sig d then gatherInt ds (sig * 10 + d) e false
    else gatherInt ds sig (e + 1) true

/-- Fraction digits gathered into a significand, each one lowering the power of ten, up to the
first that would take the significand past 64 bits; that digit and all after it are dropped. -/
def gatherFrac : List Nat → Nat → Int → Nat × Int
  | [], sig, e => (sig, e)
  | d :: ds, sig, e =>
    if fitsDigit sig d then gatherFrac ds (sig * 10 + d) (e - 1) else (sig, e)

/-- The double nearest to `n`, a tie going to the even significand. Below 2 ^ 53 every natural
number is a double; above, the bits below the 53 leading ones are rounded away. -/
def nearestOfNat (n : Nat) : Float :=
  if n < 9007199254740992 then n.toUInt64.toFloat
  else
    let sh := n.log2 - 52
    let m := n >>> sh
    let r := n % Nat.pow 2 sh
    let half := Nat.pow 2 (sh - 1)
    let m := if r > half ∨ (r = half ∧ m % 2 = 1) then m + 1 else m
    Float.scaleB m.toUInt64.toFloat sh

def pow10 (k : Nat) : Float := nearestOfNat (Nat.pow 10 k)

/-- `f * 10 ^ e` in one rounded multiplication or division by `pow10`, for `-308 ≤ e ≤ 308`.
Below that range the value is divided by `pow10 308` until the power is in range or the value
is zero; above it only zero has a value. `none` when the value overflows. -/
def scale (f : Float) (e : Int) : Option Float :=
  if 0 ≤ e then
    if e ≤ 308 then
      let r := f * pow10 e.toNat
      if r.isInf then none else some r
    else if f == 0 then some f else none
  else if -308 ≤ e then some (f / pow10 e.natAbs)
  else if f == 0 then some f
  else scale (f / pow10 308) (e + 308)
termination_by e.natAbs
decreasing_by omega

def signedBits (neg : Bool) (f : Float) : UInt64 :=
  if neg then f.toBits ||| 0x8000000000000000 else f.toBits

def toBits? (neg : Bool) (sig : Nat) (e : Int) : Option UInt64 :=
  (scale (nearestOfNat sig) e).map (signedBits neg)

/-- Exponent digits as a value below 2 ^ 31: `.ok` the value, or `.error j` when digit `j`
(counting from 0) would take it past 2 ^ 31 - 1. -/
def exponentValue : List Nat → Nat → Nat → Except Nat Nat
  | [], acc, _ => .ok acc
  | d :: ds, acc, j =>
    if acc * 10 + d > 2147483647 then .error j else exponentValue ds (acc * 10 + d) (j + 1)

end Numeral

end Descent
