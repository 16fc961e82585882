import Stencil.Toml.Quoted
/-!
# Numbers and times of TOML

Numbers, dates and times are checked in full and then forgotten: no setting is one.
-/

namespace Stencil.Toml

/-- The least number that is too large to be a whole number of TOML. -/
def wholeBound : Nat := 1 <<< 63

/-- The least number that rounds beyond the numbers with an exponent. -/
def realBound : Nat := (1 <<< 1024) - (1 <<< 970)

/-- Whether digits followed by zeros, or with a point among them, are a number beyond the bound. -/
def isBeyond (digits : List Char) (zeros : Int) : Bool :=
  let number := numberOf 10 digits
  let size : Int := (if number = 0 then 0 else (Nat.toDigits 10 number).length) + zeros
  if number = 0 || size < 309 then false
  else if 309 < size then true
  else realBound * Nat.pow 10 (-zeros).toNat ≤ number * Nat.pow 10 zeros.toNat

/-- The number of days of a month. -/
def daysOf (year month : Nat) : Nat :=
  if month = 2 then
    if year % 4 = 0 && (year % 100 ≠ 0 || year % 400 = 0) then 29 else 28
  else if [4, 6, 9, 11].contains month then 30
  else 31

namespace Reader

/-- Digits with single underscores between them; the digits. -/
def digits (isDigit : Char → Bool) : Reader (List Char) := do
  let run ← takeWhile fun c => isDigit c || c = '_'
  guard (((String.ofList run).splitOn "_").all (· ≠ ""))
  return run.filter (· ≠ '_')

/-- A sign, if there is one; whether it is a minus. -/
def sign : Reader Bool :=
  (do expect "-"; return true) <|> (do expect "+"; return false) <|> pure false

/-- A whole number in base sixteen, eight or two. -/
def based (mark : String) (base : Nat) : Reader Unit := do
  expect mark
  let number ← digits fun c => isHexDigit c && digitValue c < base
  guard (numberOf base number < wholeBound)

/-- A number in base ten: whole, or with a part after the point, an exponent or both. -/
def decimal : Reader Unit := do
  let isNegative ← sign
  let whole ← digits Char.isDigit
  guard (whole.head? ≠ some '0' || whole.length = 1)
  let part ← (do expect "."; some <$> digits Char.isDigit) <|> pure none
  let exponent ←
    (do
      expect "e" <|> expect "E"
      let isDown ← sign
      let size := numberOf 10 (← digits Char.isDigit)
      return some (if isDown then -(size : Int) else size)) <|> pure none
  if part.isNone && exponent.isNone then
    let number := numberOf 10 whole
    guard (number < wholeBound || (isNegative && number = wholeBound))
  else
    let part := part.getD []
    guard (isNegative || !isBeyond (whole ++ part) (exponent.getD 0 - part.length))

/-- An infinity or a number that is none. -/
def special : Reader Unit := do
  let _ ← sign
  expect "inf" <|> expect "nan"

/-- A number of exactly so many digits, within bounds. -/
def field (size low high : Nat) : Reader Nat := do
  let digits := (← get).take size
  guard (digits.length = size && digits.all Char.isDigit)
  modify (·.drop size)
  let number := numberOf 10 digits
  guard (low ≤ number && number ≤ high)
  return number

/-- A day. -/
def date : Reader Unit := do
  let year ← field 4 0 9999
  expect "-"
  let month ← field 2 1 12
  expect "-"
  let _ ← field 2 1 (daysOf year month)

/-- A time of day. A minute may have a leap second. -/
def time : Reader Unit := do
  let _ ← field 2 0 23
  expect ":"
  let _ ← field 2 0 59
  expect ":"
  let _ ← field 2 0 60
  optional do
    expect "."
    guard !(← takeWhile Char.isDigit).isEmpty

/-- How far a time is from the universal time. -/
def offset : Reader Unit :=
  expect "Z" <|> expect "z" <|> do
    expect "+" <|> expect "-"
    let _ ← field 2 0 23
    expect ":"
    let _ ← field 2 0 59

/-- A day, a time of day or both. -/
def moment : Reader Unit :=
  (do
    date
    optional do
      expect "T" <|> expect "t" <|> expect " "
      time
      optional offset) <|> time

/-- A number, a day or a time. -/
def number : Reader Unit :=
  moment <|> special <|> based "0x" 16 <|> based "0o" 8 <|> based "0b" 2 <|> decimal

end Reader
end Stencil.Toml
