/-!
# Doubles as exact numbers

A finite double is a whole number times a power of two. Its decimal forms are computed from that exact value:
rounded to a number of places, and as the shortest decimal that reads back as the same double.
-/

namespace CrudScaffold.Number

/-- The power of two with a given exponent. -/
def twoTo (exponent : Nat) : Nat :=
  Nat.pow 2 exponent

/-- The power of ten with a given exponent. -/
def tenTo (exponent : Nat) : Nat :=
  Nat.pow 10 exponent

/-- The number `mantissa * 2 ^ exponent`, with its sign. -/
structure Double where
  negative : Bool
  mantissa : Nat
  exponent : Int
  deriving DecidableEq, Repr

/-- The exact value of a double, unless it is infinite or not a number. -/
def Double.ofFloat? (x : Float) : Option Double :=
  let bits := x.toBits.toNat
  let negative := bits / twoTo 63 == 1
  let scale : Nat := bits / twoTo 52 % twoTo 11
  let fraction : Nat := bits % twoTo 52
  if scale = 2047 then none
  else if scale = 0 then some ⟨negative, fraction, -1074⟩
  else some ⟨negative, twoTo 52 + fraction, (scale : Int) - 1075⟩

/-- The quotient rounded to the nearest whole number, a tie to the even one. -/
def roundDiv (num den : Nat) : Nat :=
  let q := num / den
  let twice := 2 * (num % den)
  if twice < den ∨ (twice = den ∧ q % 2 = 0) then q else q + 1

private def digitsOf (n : Nat) : List Char :=
  Nat.toDigits 10 n

private def zeros (n : Nat) : List Char :=
  List.replicate n '0'

/-- The value with `places` decimals. -/
def Double.fixed (places : Nat) (d : Double) : String :=
  let scaled :=
    if d.exponent ≥ 0 then d.mantissa * twoTo d.exponent.toNat * tenTo places
    else roundDiv (d.mantissa * tenTo places) (twoTo (-d.exponent).toNat)
  let fraction := digitsOf (scaled % tenTo places)
  let sign := if d.negative then ['-'] else []
  .ofList (sign ++ digitsOf (scaled / tenTo places) ++ ['.'] ++ zeros (places - fraction.length) ++ fraction)

/-- A double with `places` decimals; infinities and the absence of a number have names. -/
def fixed (places : Nat) (x : Float) : String :=
  match Double.ofFloat? x with
  | some d => d.fixed places
  | none => if x.isNaN then "nan" else if x < 0 then "-inf" else "inf"

/-! ### The shortest decimal -/

/-- A decimal number `digits * 10 ^ exponent`. -/
structure Decimal where
  digits : Nat
  exponent : Int

/-- The multiple of `10 ^ exponent` next to the double that reads back as the double: of its two neighbours the
nearer one that lies between the midpoints to the doubles around it, and the even one if both are equally near. -/
def Double.onGrid? (d : Double) (exponent : Int) : Option Decimal :=
  -- In units of a quarter of the last binary place, the value is `4 * mantissa`.
  let up := (d.exponent - 2).toNat
  let down := (2 - d.exponent).toNat
  let grid := tenTo exponent.toNat
  let scale := tenTo (-exponent).toNat
  let value (quarters : Nat) : Nat := quarters * twoTo up * scale
  let point (n : Nat) : Nat := n * grid * twoTo down
  let exact := value (4 * d.mantissa)
  let below := value (if d.mantissa = twoTo 52 ∧ d.exponent > -1074 then 4 * d.mantissa - 1 else 4 * d.mantissa - 2)
  let above := value (4 * d.mantissa + 2)
  let even := d.mantissa % 2 = 0
  let inside (n : Nat) : Bool :=
    (below < point n && point n < above) || (decide even && (point n == below || point n == above))
  let floor := exact / point 1
  match inside floor, inside (floor + 1) with
  | true, true => some ⟨roundDiv exact (point 1), exponent⟩
  | true, false => some ⟨floor, exponent⟩
  | false, true => some ⟨floor + 1, exponent⟩
  | false, false => none

/-- The number of decimal digits before the point; at most zero for a value below one. -/
private def Double.magnitude (d : Double) : Int :=
  if d.exponent ≥ 0 then (digitsOf (d.mantissa * twoTo d.exponent.toNat)).length
  else
    let scale := (-d.exponent).toNat
    (digitsOf (d.mantissa * tenTo scale / twoTo scale)).length - scale

/-- The decimal with the fewest digits that reads back as the double. -/
def Double.shortest (d : Double) : Decimal :=
  let grids := (List.range 17).map fun (n : Nat) => d.magnitude - 1 - (n : Int)
  (grids.findSome? d.onGrid?).getD ⟨0, 0⟩

/-- A positive decimal: with a point where its exponent is moderate, and with a power of ten elsewhere. -/
def Decimal.text (d : Decimal) : List Char :=
  let ds := (digitsOf d.digits).reverse.dropWhile (· == '0') |>.reverse
  let point : Int := d.exponent + (digitsOf d.digits).length
  if -4 < point ∧ point ≤ 16 then
    if point ≤ 0 then ['0', '.'] ++ zeros (-point).toNat ++ ds
    else if ds.length ≤ point.toNat then ds ++ zeros (point.toNat - ds.length) ++ ['.', '0']
    else ds.take point.toNat ++ ['.'] ++ ds.drop point.toNat
  else
    let exponent := digitsOf (point - 1).natAbs
    let sign := if point < 1 then '-' else '+'
    ds.take 1 ++ (if ds.length > 1 then '.' :: ds.drop 1 else []) ++ ['e', sign] ++
      zeros (2 - exponent.length) ++ exponent

/-- The shortest decimal text that reads back as the double. -/
def shortest (x : Float) : String :=
  match Double.ofFloat? x with
  | some d =>
    let sign := if d.negative then ['-'] else []
    .ofList (sign ++ if d.mantissa = 0 then ['0', '.', '0'] else d.shortest.text)
  | none => if x.isNaN then "nan" else if x < 0 then "-inf" else "inf"

end CrudScaffold.Number
