import Mathlib.Tactic

/-!
# Decimal text of integers

`parseLong` reads what `Long.parseLong` reads: an optional sign and one or more
digits.  `longToString` writes the canonical text.  Reading what was written gives
the integer back, so distinct integers have distinct texts.
-/

namespace Decimal

/-- One or more decimal digits, most significant first. -/
def parseDigits (digits : List Char) : Option Nat :=
  if digits ≠ [] ∧ digits.all Char.isDigit then some (Nat.ofDigitChars 10 digits 0)
  else none

def parseSigned : List Char → Option Int
  | '-' :: digits => (parseDigits digits).map fun n : Nat => -(n : Int)
  | '+' :: digits => (parseDigits digits).map fun n : Nat => (n : Int)
  | digits => (parseDigits digits).map fun n : Nat => (n : Int)

/-- `Long.parseLong(text)`; `none` stands for the `NumberFormatException`. -/
def parseLong (text : String) : Option Int :=
  parseSigned text.toList

/-- `Long.toString(i)` and `String.valueOf(i)`. -/
def longToString (i : Int) : String :=
  toString i

theorem parseDigits_toDigits (n : Nat) :
    parseDigits (Nat.toDigits 10 n) = some n := by
  have hdigits : (Nat.toDigits 10 n).all Char.isDigit = true :=
    List.all_eq_true.mpr fun c hc =>
      Nat.isDigit_of_mem_toDigits (by decide) (by decide) hc
  rw [parseDigits, if_pos ⟨Nat.toDigits_ne_nil, hdigits⟩, Nat.ofDigitChars_ten_toDigits]

/-- Text that starts with a digit has no sign. -/
theorem parseSigned_toDigits (n : Nat) :
    parseSigned (Nat.toDigits 10 n) = some (n : Int) := by
  have hparse := parseDigits_toDigits n
  have hdigit : ∀ c ∈ Nat.toDigits 10 n, c.isDigit = true := fun c hc =>
    Nat.isDigit_of_mem_toDigits (by decide) (by decide) hc
  generalize Nat.toDigits 10 n = digits at hparse hdigit
  unfold parseSigned
  split
  · exact absurd (hdigit '-' List.mem_cons_self) (by decide)
  · exact absurd (hdigit '+' List.mem_cons_self) (by decide)
  · rw [hparse, Option.map_some]

/-- Reading the text of an integer gives the integer back. -/
@[simp] theorem parseLong_longToString (i : Int) :
    parseLong (longToString i) = some i := by
  rw [parseLong, longToString, Int.toString_eq_repr, Int.repr_eq_if]
  split
  · rename_i hnonneg
    rw [Nat.toList_repr, parseSigned_toDigits, Int.toNat_of_nonneg hnonneg]
  · rename_i hneg
    have htext : ("-" ++ (-i).toNat.repr).toList = '-' :: Nat.toDigits 10 (-i).toNat := by
      simp
    rw [htext, parseSigned, parseDigits_toDigits, Option.map_some]
    congr 1
    omega

/-- The text of an integer that is not negative consists of digits. -/
theorem longToString_digits {i : Int} (hi : 0 ≤ i) :
    (longToString i).toList ≠ [] ∧ ∀ c ∈ (longToString i).toList, c.isDigit = true := by
  rw [longToString, Int.toString_eq_repr, Int.repr_eq_if, if_pos hi, Nat.toList_repr]
  exact ⟨Nat.toDigits_ne_nil, fun c hc =>
    Nat.isDigit_of_mem_toDigits (by decide) (by decide) hc⟩

theorem longToString_injective : Function.Injective longToString := by
  intro i j h
  have hparse := congrArg parseLong h
  rw [parseLong_longToString, parseLong_longToString] at hparse
  exact Option.some.inj hparse

@[simp] theorem longToString_inj {i j : Int} : longToString i = longToString j ↔ i = j :=
  longToString_injective.eq_iff

end Decimal
