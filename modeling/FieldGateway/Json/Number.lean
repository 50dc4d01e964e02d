import FieldGateway.Json.Basic

/-!
# Numbers in JSON texts

A number without fraction and exponent is an integer as long as it fits in 64 bits, with or without
sign; minus zero and every other number is a float. A float is computed from the leading digits
that fit in 64 bits, times or divided by a power of ten, so that long numbers are not always
rounded to the nearest float. A number beyond the largest float cannot be read.
-/

namespace FieldGateway.Json

/-- A number as it is written. -/
structure Literal where
  negative : Bool
  whole : List Nat
  /-- The digits after the point, if there is one. -/
  fraction : Option (List Nat)
  /-- Whether the exponent is negative, and its digits, if there is one. -/
  exponent : Option (Bool × List Nat)

/-- The digits at the front, and the rest. -/
def spanDigits : List UInt8 → List Nat × List UInt8
  | [] => ([], [])
  | b :: r =>
    if 0x30 ≤ b && b ≤ 0x39 then
      let (ds, t) := spanDigits r
      ((b - 0x30).toNat :: ds, t)
    else ([], b :: r)

/-- The exponent at the front; `none` if there is a mark without digits. -/
def exponent? : List UInt8 → Option (Option (Bool × List Nat) × List UInt8)
  | [] => some (none, [])
  | b :: r =>
    if b == 0x65 || b == 0x45 then
      let (negative, t) := match r with
        | 0x2d :: t => (true, t)
        | 0x2b :: t => (false, t)
        | t => (false, t)
      match spanDigits t with
      | ([], _) => none
      | (ds, u) => some (some (negative, ds), u)
    else some (none, b :: r)

/-- The fraction at the front; `none` if there is a point without digits. -/
def fraction? : List UInt8 → Option (Option (List Nat) × List UInt8)
  | 0x2e :: r =>
    match spanDigits r with
    | ([], _) => none
    | (ds, t) => some (some ds, t)
  | r => some (none, r)

/-- A whole text as a number: no leading zeros, and a digit on both sides of a point. -/
def literal? (s : List UInt8) : Option Literal := do
  let (negative, r) := match s with
    | 0x2d :: r => (true, r)
    | r => (false, r)
  let (whole, r) := spanDigits r
  guard (!whole.isEmpty && (whole.head? != some 0 || whole.length == 1))
  let (fraction, r) ← fraction? r
  let (exponent, r) ← exponent? r
  guard r.isEmpty
  return { negative, whole, fraction, exponent }

/-- The first number that 64 bits cannot hold. -/
def wordBound : Nat := UInt64.size

/-- Reads digits after `n` while the number fits in 64 bits; the second part is what is left. -/
def absorb (n : Nat) : List Nat → Nat × List Nat
  | [] => (n, [])
  | d :: r => if 10 * n + d < wordBound then absorb (10 * n + d) r else (n, d :: r)

def tenTo (k : Nat) : Float := Float.ofScientific 1 false k

/-- The largest power of ten that a float holds. -/
def largestPower : Nat := 308

/-- `x` divided by ten to the `k`, in steps of the largest power. -/
def scaleDown (x : Float) (k : Nat) : Float :=
  if k ≤ largestPower then x / tenTo k
  else if x == 0 then x
  else scaleDown (x / tenTo largestPower) (k - largestPower)
termination_by k
decreasing_by simp only [largestPower] at *; omega

/-- `n` times ten to the `k`; `none` beyond the largest float. -/
def scaled? (n : Nat) (k : Int) : Option Float :=
  let x := Float.ofNat n
  if k < 0 then some (scaleDown x k.natAbs)
  else if k ≤ largestPower then
    let y := x * tenTo k.natAbs
    if y.isInf then none else some y
  else if x == 0 then some x
  else none

/-- The value of an exponent's digits; `none` above the limit of 31 bits. -/
def exponentValue? (digits : List Nat) : Option Nat :=
  let n := digits.foldl (fun n d => 10 * n + d) 0
  if n < 0x80000000 then some n else none

namespace Literal

/-- The size of the number as a float: the digits that fit, shifted by the exponent. -/
def magnitude? (l : Literal) : Option Float := do
  let (n, left) := absorb 0 l.whole
  let digits := l.fraction.getD []
  let (m, lost) := absorb n digits
  let shift : Int := left.length - (digits.length - lost.length : Nat)
  match l.exponent with
  | none => scaled? m shift
  | some (negative, ds) =>
    match exponentValue? ds with
    | some e => scaled? m (if negative then shift - e else shift + e)
    | none => if m ≠ 0 ∧ !negative then none else some 0

def float? (l : Literal) : Option Float :=
  l.magnitude?.map fun x => if l.negative then -x else x

def int? (l : Literal) : Option Int :=
  match l.fraction, l.exponent, absorb 0 l.whole with
  | none, none, (n, []) =>
    if l.negative then
      if 0 < n ∧ n ≤ 0x8000000000000000 then some (-(n : Int)) else none
    else some n
  | _, _, _ => none

def value (l : Literal) : Json :=
  match l.int? with
  | some n => .int n
  | none =>
    match l.float? with
    | some x => .float x
    | none => .unreadable

end Literal

end FieldGateway.Json
