/-! Text of a finite double: the fewest significant digits that read back to the same double,
the nearest such decimal when several have that many digits, written positionally for decimal
exponents from -5 to 16 and in `e` notation otherwise. Arithmetic is exact on `Nat`: the
double is `m * 2 ^ q` and the decimals that read back to it form an interval around it. -/

namespace Descent

namespace Double

/-- Significand and binary exponent of a finite double's magnitude: `m * 2 ^ (q : Int)`. -/
def decode (bits : UInt64) : Nat × Int :=
  let frac := (bits &&& 0xFFFFFFFFFFFFF).toNat
  let exp := ((bits >>> 52) &&& 0x7FF).toNat
  if exp = 0 then (frac, -1074) else (frac + 4503599627370496, (exp : Int) - 1075)

/-- `a * 2 ^ i * 10 ^ j` compared with `b * 2 ^ k * 10 ^ l`, as a sign. -/
def cmpScaled (a : Nat) (i j : Int) (b : Nat) (k l : Int) : Ordering :=
  let e2 := min i k
  let e10 := min j l
  compare (a * Nat.pow 2 (i - e2).toNat * Nat.pow 10 (j - e10).toNat)
    (b * Nat.pow 2 (k - e2).toNat * Nat.pow 10 (l - e10).toNat)

def floorScaled (a : Nat) (i j : Int) : Nat :=
  (a * Nat.pow 2 i.toNat * Nat.pow 10 (-j).toNat) / (Nat.pow 2 (-i).toNat * Nat.pow 10 j.toNat)

def digits (n : Nat) : List Char := Nat.toDigits 10 n

/-- Shortest digits `d` and exponent `s` with `d * 10 ^ s` reading back to `m * 2 ^ q`, `m > 0`. -/
def shortest (m : Nat) (q : Int) : Nat × Int :=
  -- the exact value is `4m * 2^b`; its rounding interval has ends `lo * 2^b` and `hi * 2^b`
  let b := q - 2
  let v := 4 * m
  let lo := if m = 4503599627370496 ∧ q > -1074 then v - 1 else v - 2
  let hi := v + 2
  let inclusive := m % 2 = 0
  let e : Int := ((digits (floorScaled v b (-325))).length : Int) - 1 - 325
  let inside (d : Nat) (s : Int) : Bool :=
    let cl := cmpScaled lo b 0 d 0 s
    let ch := cmpScaled d 0 s hi b 0
    (cl == .lt || (inclusive && cl == .eq)) && (ch == .lt || (inclusive && ch == .eq))
  let rec search : Nat → Nat → Nat × Int
    | 0, _ => (m, q)
    | fuel + 1, n =>
      let s : Int := (e : Int) - n + 1
      let d := floorScaled v b s
      let below := inside d s
      let above := inside (d + 1) s
      if below && above then
        -- both neighbours read back: take the nearer, the even one on a tie
        match cmpScaled v b 0 (2 * d + 1) (-1) s with
        | .lt => (d, s)
        | .gt => (d + 1, s)
        | .eq => if d % 2 = 0 then (d, s) else (d + 1, s)
      else if below then (d, s)
      else if above then (d + 1, s)
      else search fuel (n + 1)
  search 17 1

def trim : Nat → Nat × Int → Nat × Int
  | 0, r => r
  | fuel + 1, (d, s) => if d ≠ 0 ∧ d % 10 = 0 then trim fuel (d / 10, s + 1) else (d, s)

/-- Write `d * 10 ^ k` with the positional range of exponents `-5 < k + length ≤ 16`; outside it
one digit before the point and a signed exponent, `1e+16` and `2.5e-8`. -/
def layout (d : Nat) (k : Int) : String :=
  let ds := digits d
  let len : Int := ds.length
  let kk := len + k
  let zeros (n : Int) := List.replicate n.toNat '0'
  let expText (x : Int) := (if x < 0 then "-" else "+") ++ toString x.natAbs
  if 0 ≤ k ∧ kk ≤ 16 then String.ofList (ds ++ zeros k) ++ ".0"
  else if 0 < kk ∧ kk ≤ 16 then
    String.ofList (ds.take kk.toNat) ++ "." ++ String.ofList (ds.drop kk.toNat)
  else if -5 < kk ∧ kk ≤ 0 then "0." ++ String.ofList (zeros (-kk) ++ ds)
  else if ds.length = 1 then String.ofList ds ++ "e" ++ expText (kk - 1)
  else String.ofList (ds.take 1) ++ "." ++ String.ofList (ds.drop 1) ++ "e" ++ expText (kk - 1)

def render (bits : UInt64) : String :=
  let sign := if bits >>> 63 = 1 then "-" else ""
  let (m, q) := decode bits
  if m = 0 then sign ++ "0.0"
  else
    let (d, s) := trim 20 (shortest m q)
    sign ++ layout d s

end Double

end Descent
