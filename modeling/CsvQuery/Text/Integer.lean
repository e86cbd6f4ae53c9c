/-!
The text of a signed 64-bit integer: an optional sign, at least one ASCII digit, and a value
between `least` and `greatest`. Leading zeros are allowed, blanks are not.
-/

namespace CsvQuery.Integer

/-- The smallest integer a cell or a number literal can hold. -/
def least : Int := -9223372036854775808

/-- The largest integer a cell or a number literal can hold. -/
def greatest : Int := 9223372036854775807

def clamp (n : Int) : Int :=
  if n < least then least else if greatest < n then greatest else n

/-- The integer itself if it lies in the range. -/
def inRange? (n : Int) : Option Int :=
  if least ≤ n ∧ n ≤ greatest then some n else none

/-- The number that a run of ASCII digits denotes, if it is one and not empty. -/
def natural? (digits : List Char) : Option Nat :=
  if digits.isEmpty || digits.any (fun c => !c.isDigit) then none
  else some (Nat.ofDigitChars 10 digits 0)

/-- The integer that the characters denote, sign included. -/
def ofChars? : List Char → Option Int
  | '-' :: digits => (natural? digits).bind fun n => inRange? (-(n : Int))
  | '+' :: digits => (natural? digits).bind fun n => inRange? n
  | digits => (natural? digits).bind fun n => inRange? n

def ofText? (s : String) : Option Int :=
  ofChars? s.toList

end CsvQuery.Integer
