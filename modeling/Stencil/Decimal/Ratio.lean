/-!
# Ratios

Rates and sizes are ratios of natural numbers. They are computed with 53 significant bits: the
numbers that go in and what each operation gives are rounded to the nearest such number. They are
written with a fixed number of decimal places. Both roundings send a tie to the even neighbour.
-/

namespace Stencil

/-- A quotient rounded to the nearest natural number, a tie to the even one. -/
def roundDiv (num den : Nat) : Nat :=
  let whole := num / den
  let rest := num % den
  if den < 2 * rest || (2 * rest = den && whole % 2 = 1) then whole + 1 else whole

/-- A fraction of natural numbers. -/
structure Ratio where
  num : Nat
  den : Nat

namespace Ratio

/-- The number of significant bits. -/
def bits : Nat := 53

/-- A fraction times two to a power. -/
def shift (ratio : Ratio) (power : Int) : Ratio :=
  if 0 ≤ power then ⟨ratio.num <<< power.toNat, ratio.den⟩
  else ⟨ratio.num, ratio.den <<< (-power).toNat⟩

/-- The power of two that leaves a fraction with as many whole bits as are significant. -/
def scale (ratio : Ratio) : Int :=
  let power : Int := (ratio.num.log2 : Int) - ratio.den.log2 - bits + 1
  let scaled := ratio.shift (-power)
  if scaled.num < scaled.den <<< (bits - 1) then power - 1 else power

/-- The nearest fraction with so many significant bits. -/
def rounded (ratio : Ratio) : Ratio :=
  if ratio.num = 0 then ⟨0, 1⟩
  else
    let power := ratio.scale
    let scaled := ratio.shift (-power)
    (⟨roundDiv scaled.num scaled.den, 1⟩ : Ratio).shift power

/-- A rounded natural number. -/
def ofNat (n : Nat) : Ratio := rounded ⟨n, 1⟩

/-- A rounded product with a natural number. -/
def scaled (ratio : Ratio) (n : Nat) : Ratio := rounded ⟨ratio.num * n, ratio.den⟩

/-- A rounded sum. -/
def plus (a b : Ratio) : Ratio := rounded ⟨a.num * b.den + b.num * a.den, a.den * b.den⟩

/-- A rounded quotient of fractions; by zero it is zero. -/
def per (a b : Ratio) : Ratio :=
  if b.num = 0 then ofNat 0 else rounded ⟨a.num * b.den, a.den * b.num⟩

/-- A rounded quotient of rounded natural numbers; by zero it is zero. -/
def quotient (a b : Nat) : Ratio := (ofNat a).per (ofNat b)

/-- Digits with a point before the last `places` of them. -/
def decimalText (digits places : Nat) : String :=
  let part := toString (digits % Nat.pow 10 places)
  if places = 0 then toString digits
  else toString (digits / Nat.pow 10 places) ++ "." ++ "".pushn '0' (places - part.length) ++ part

/-- A fraction with a fixed number of decimal places. -/
def text (ratio : Ratio) (places : Nat) : String :=
  decimalText (roundDiv (ratio.num * Nat.pow 10 places) ratio.den) places

/-- A fraction in hundredths, with one decimal place. -/
def percent (ratio : Ratio) : String := (ratio.scaled 100).text 1

end Ratio
end Stencil
