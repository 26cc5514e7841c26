import WorkDispatch.Bits
import WorkDispatch.Json.Tree
import WorkDispatch.Time.Span

/-!
Binary floating-point numbers as exact values. `parts` takes a finite number apart into a sign, a
whole number and a power of two; on these the module writes a number with the fewest digits that
read back, and rounds seconds to nanoseconds, in whole-number arithmetic.
-/

set_option autoImplicit false

namespace WorkDispatch.Binary64

/-- A finite number is `mantissa * 2 ^ exponent` with a sign. -/
structure Parts where
  negative : Bool
  mantissa : Nat
  exponent : Int
  deriving DecidableEq, Repr

/-- Takes bits apart; an infinity and what is no number have no parts. -/
def partsOfBits? (bits : Nat) : Option Parts :=
  let negative : Bool := bits / Bits.count63 % 2 == 1
  let exponent : Nat := bits / Bits.count52 % 2048
  let fraction : Nat := bits % Bits.count52
  if exponent = 2047 then none
  else if exponent = 0 then some ⟨negative, fraction, -1074⟩
  else some ⟨negative, fraction + Bits.count52, (exponent : Int) - 1075⟩

def parts? (x : Float) : Option Parts := partsOfBits? x.toBits.toNat

/-- The nearest number to `digits * 10 ^ exponent`. Exponents that leave the range whatever the
digits need no power of ten. -/
def ofDecimal (negative : Bool) (digits : Nat) (exponent : Int) : Float :=
  let places : Int := (toString digits).length
  let size :=
    if digits = 0 ∨ places + exponent < -400 then 0
    else if 400 < places + exponent then 1.0 / 0.0
    else Float.ofScientific digits (exponent < 0) exponent.natAbs
  if negative then -size else size

/-- The number that a document's number stands for. -/
def ofNumber : Json.Number → Float
  | .integer n => ofDecimal (n < 0) n.natAbs 0
  | .decimal negative digits exponent => ofDecimal negative digits exponent

/-! ## Shortest digits -/

/-- A ratio of whole numbers for `n * 2 ^ e`. -/
def scaled (n : Nat) (e : Int) : Nat × Nat :=
  if 0 ≤ e then (n * Nat.pow 2 e.toNat, 1) else (n, Nat.pow 2 (-e).toNat)

/-- The power of ten just above a ratio: the least `e` with the ratio below `10 ^ e`. The first
argument bounds the search. -/
def decimalPoint : Nat → Nat → Nat → Int
  | 0, _, _ => 0
  | fuel + 1, num, den =>
    if den ≤ num then decimalPoint fuel num (den * 10) + 1
    else if num * 10 < den then decimalPoint fuel (num * 10) den - 1
    else 0

/-- The digits and the power of ten of the last one: of the points of a decimal grid that read back
as the number, the nearest one, on the coarsest grid that has any. The second argument counts the
digits that the grid allows. -/
def shortestFrom (num lo hi den : Nat) (closed : Bool) (point : Int) : Nat → Nat → Nat × Int
  | 0, _ => (0, 0)
  | fuel + 1, digits =>
    let e := point - digits
    let up := if e < 0 then Nat.pow 10 (-e).toNat else 1
    let down := if e < 0 then 1 else Nat.pow 10 e.toNat
    let k := num * up / (den * down)
    let inside (k : Nat) : Bool :=
      let v := k * den * down
      if closed then lo * up ≤ v && v ≤ hi * up else lo * up < v && v < hi * up
    let below := num * up - k * den * down
    let above := (k + 1) * den * down - num * up
    if inside k && (!inside (k + 1) || below ≤ above) then (k, e)
    else if inside (k + 1) then (k + 1, e)
    else shortestFrom num lo hi den closed point fuel (digits + 1)

/-- The fewest digits that read back as a positive number, and the power of ten of the last. -/
def shortest (p : Parts) : Nat × Int :=
  let (num, den) := scaled (4 * p.mantissa) (p.exponent - 2)
  let unit := if p.exponent < 2 then 1 else Nat.pow 2 (p.exponent - 2).toNat
  let narrow := p.mantissa = Bits.count52 ∧ -1074 < p.exponent
  let lo := num - (if narrow then 1 else 2) * unit
  let hi := num + 2 * unit
  shortestFrom num lo hi den (p.mantissa % 2 = 0) (decimalPoint 700 num den) 17 1

/-- Digits written out in full, with as many zeros as the power of ten asks for. -/
def positional (digits : Nat) (exponent : Int) : String :=
  if 0 ≤ exponent then toString (digits * Nat.pow 10 exponent.toNat)
  else
    let width := (-exponent).toNat
    let whole := digits / Nat.pow 10 width
    let places := Span.places width (digits % Nat.pow 10 width)
    if places = "" then toString whole else toString whole ++ "." ++ places

/-- A number written out in full with the fewest digits that read back. -/
def text (x : Float) : String :=
  match parts? x with
  | none => if x.isNaN then "NaN" else if x < 0 then "-inf" else "inf"
  | some p =>
    (if p.negative then "-" else "") ++
      (if p.mantissa = 0 then "0" else
        let (digits, e) := shortest p
        positional digits e)

/-! ## Seconds -/

/-- A ratio rounded to a whole number, a half to the even neighbour. -/
def roundDiv (num den : Nat) : Nat :=
  let q := num / den
  let r := 2 * (num % den)
  if r < den ∨ (r = den ∧ q % 2 = 0) then q else q + 1

/-- Seconds as a span, to the nearest nanosecond. A negative number, one without parts and one of
`2 ^ 64` seconds or more are no spans. -/
def toSpan? (x : Float) : Option Span :=
  match parts? x with
  | none => none
  | some p =>
    if p.negative ∧ p.mantissa ≠ 0 then none
    else
      let (num, den) := scaled (p.mantissa * Span.perSecond) p.exponent
      let n := roundDiv num den
      if n < Span.limit then some ⟨n⟩ else none

/-- The seconds of a span: the whole ones, and the nanoseconds over 10^9 added to them. -/
def ofSpan (s : Span) : Float :=
  s.secs.toUInt64.toFloat + s.subsecNanos.toUInt64.toFloat / 1000000000

/-- The nearest whole number, a half going away from zero, clamped to a range; what is no number
counts as zero. -/
def roundToInt (lo hi : Int) (x : Float) : Int :=
  match parts? x with
  | none => if x.isNaN then 0 else if x < 0 then lo else hi
  | some p =>
    let (num, den) := scaled p.mantissa p.exponent
    let n := (2 * num + den) / (2 * den)
    let n : Int := if p.negative then -(n : Int) else n
    max lo (min hi n)

end WorkDispatch.Binary64
