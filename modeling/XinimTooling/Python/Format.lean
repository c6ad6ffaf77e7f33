/-
Module: XinimTooling.Python.Format
Purpose: The format specifications the source tools use in f-strings on integers and
  strings: a field width (`{text:10}`, `{count:5}`), thousands separators (`{n:,}`), and two
  decimals (`{x:.2f}`) of a quotient that a double holds exactly.
Trusted boundary: CPython's `format`; a double is printed from its exact binary value,
  rounded half to even
Main exports: padRight, padLeft, groupThousands, fixedTwo
-/
import XinimTooling.Python.Str

namespace XinimTooling

/-- `f"{text:width}"` for a `str`: aligned left and padded with spaces to `width` code
points; a longer text is kept whole. -/
def padRight (width : Nat) (text : String) : String :=
  text ++ String.mk (List.replicate (width - text.length) ' ')

/-- `f"{count:width}"` for an `int`: aligned right. -/
def padLeft (width : Nat) (text : String) : String :=
  String.mk (List.replicate (width - text.length) ' ') ++ text

/-- Digits, lowest first, `placed` of them already in the current group: a comma goes
before each digit that opens a new group of three. -/
def groupDigits : Nat → List Char → List Char
  | _, [] => []
  | 3, digit :: rest => ',' :: digit :: groupDigits 1 rest
  | placed, digit :: rest => digit :: groupDigits (placed + 1) rest

/-- `f"{count:,}"` for a non-negative `int`. -/
def groupThousands (count : Nat) : String :=
  String.mk (groupDigits 0 (Nat.toDigits 10 count).reverse).reverse

/-- `f"{numerator / denominator:.2f}"` where the double quotient is the exact one, as it is
for a power of two below `2 ^ 53` times the denominator: the quotient rounded half to even
at two decimals. -/
def fixedTwo (numerator denominator : Nat) : String :=
  let hundredths := numerator * 100 / denominator
  let rest := numerator * 100 % denominator
  let rounded :=
    if denominator < 2 * rest ∨ (2 * rest = denominator ∧ hundredths % 2 = 1) then hundredths + 1
    else hundredths
  toString (rounded / 100) ++ "." ++ (if rounded % 100 < 10 then "0" else "") ++
    toString (rounded % 100)

example : groupThousands 1234567 = "1,234,567" ∧ groupThousands 999 = "999" := by decide

example : fixedTwo 1572864 1048576 = "1.50" ∧ fixedTwo 5 1048576 = "0.00" ∧
    fixedTwo 13107 1048576 = "0.01" := by decide

end XinimTooling
