/-
# Decimal numerals

Reading whole numbers: the value of a list of digits, the 64-bit integers among all integers,
and the signed numerals that a program reads from its input.
-/
namespace RobotScribe.Text

/-- The number that a list of decimal digits denotes, most significant digit first. -/
def digitsValue (digits : List Char) : Nat :=
  digits.foldl (fun n d => 10 * n + (d.toNat - '0'.toNat)) 0

/-- The 64-bit integer equal to an integer, if there is one. -/
def exactInt64? (n : Int) : Option Int64 :=
  if Int64.minValue.toInt ≤ n ∧ n ≤ Int64.maxValue.toInt then some (Int64.ofInt n) else none

/-- The 32-bit natural number equal to an integer, if there is one. -/
def exactUInt32? (n : Int) : Option UInt32 :=
  if 0 ≤ n ∧ n < UInt32.size then some (UInt32.ofNat n.toNat) else none

/-- The integer as a count, if it is one that fits 64 bits. -/
def exactCount? (n : Int) : Option Nat :=
  if 0 ≤ n ∧ n < UInt64.size then some n.toNat else none

/-- Splits a numeral into its sign, which is at most one character, and the rest. -/
def splitSign : List Char → Bool × List Char
  | '-' :: rest => (true, rest)
  | '+' :: rest => (false, rest)
  | rest => (false, rest)

/-- Reads a numeral: an optional sign, then one or more ASCII digits, with a value that fits
64 bits.  Leading zeros are allowed. -/
def readInt64? (text : String) : Option Int64 :=
  let (negative, digits) := splitSign text.toList
  if digits ≠ [] ∧ digits.all Char.isDigit then
    let n : Int := digitsValue digits
    exactInt64? (if negative then -n else n)
  else none

theorem toInt_of_exactInt64? {n : Int} {i : Int64} (h : exactInt64? n = some i) :
    i.toInt = n := by
  unfold exactInt64? at h
  split at h
  · next hn =>
    cases h
    have least : Int64.minValue.toInt = -2 ^ 63 := by decide
    have greatest : Int64.maxValue.toInt = 2 ^ 63 - 1 := by decide
    exact Int64.toInt_ofInt_of_le (by omega) (by omega)
  · cases h

theorem exactInt64?_toInt (i : Int64) : exactInt64? i.toInt = some i := by
  unfold exactInt64?
  rw [if_pos ⟨i.minValue_le_toInt, i.toInt_le⟩, Int64.ofInt_toInt]

theorem exactUInt32?_toNat (n : UInt32) : exactUInt32? (n.toNat : Int) = some n := by
  have h : n.toNat < UInt32.size := n.toNat_lt_size
  unfold exactUInt32?
  rw [if_pos ⟨by omega, by omega⟩]
  simp

end RobotScribe.Text
