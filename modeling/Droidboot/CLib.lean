/-
  Droidboot formalization — the C values the engine computes with.

  * `CInt` is a C `int`: an integer that carries its 32-bit range, so that a
    configuration value outside the range cannot be built;
  * `atoi` is the C library's `atoi` on the x86-64 build, `(int) strtol(s,
    NULL, 10)`: leading white space, an optional sign, then decimal digits,
    saturating at the ends of the 64-bit `long`, and then cut to the low 32
    bits by the conversion to `int` (`CInt.ofLong`);
  * `CInt.dec` is `x - 1` as the two's-complement machine computes it, which
    C leaves undefined at `INT_MIN`, and `CInt.mul?` is `int` multiplication,
    `none` where C leaves an overflowing product undefined;
  * C strings are `List Char` (the characters before the terminating NUL);
    `strcmp(a, b) == 0` is `a = b` and `strncmp(s, lit, strlen(lit)) == 0`
    is `lit.isPrefixOf s`.
-/
import Mathlib.Tactic

namespace Droidboot

/-! ## `int` -/

/-- `INT_MIN` of a 32-bit `int`. -/
def INT_MIN : Int := -2147483648

/-- `INT_MAX` of a 32-bit `int`. -/
def INT_MAX : Int := 2147483647

/-- A C `int`. -/
structure CInt where
  val : Int
  min_le : INT_MIN ≤ val
  le_max : val ≤ INT_MAX
deriving DecidableEq

namespace CInt

/-- The `int` nearest to `z`. -/
def clamp (z : Int) : CInt :=
  ⟨max INT_MIN (min z INT_MAX), le_max_left _ _,
    max_le (by simp [INT_MIN, INT_MAX]) (min_le_right _ _)⟩

@[simp] theorem clamp_val_of_range {z : Int} (h₁ : INT_MIN ≤ z) (h₂ : z ≤ INT_MAX) :
    (clamp z).val = z := by
  simp [clamp, h₁, h₂]

/-- The `int` literal `n` (for the defaults of the source). -/
def ofNat (n : Nat) : CInt := clamp n

/-- The value of `seconds` as the loop `for ( ; seconds; seconds--)` sees it:
    the number of decrements, two's-complement wrap included, before it reaches `0`. -/
def toUnsigned (x : CInt) : Nat := (x.val % 4294967296).toNat

theorem toUnsigned_of_nonneg {x : CInt} (h : 0 ≤ x.val) : x.toUnsigned = x.val.toNat := by
  have := x.le_max
  unfold toUnsigned INT_MAX at *
  omega

theorem toUnsigned_eq_zero {x : CInt} : x.toUnsigned = 0 ↔ x.val = 0 := by
  have h₁ := x.min_le
  have h₂ := x.le_max
  unfold toUnsigned INT_MIN INT_MAX at *
  omega

/-- `x - 1` on `int` as the two's-complement machine computes it.  At
    `INT_MIN` the result is undefined in C; the machine wraps to `INT_MAX`,
    and a statement that depends on it says what the compiled loop does
    (`Countdown.wrapped` records that a run got there). -/
def dec (x : CInt) : CInt :=
  if h : x.val = INT_MIN then ⟨INT_MAX, by decide, le_refl _⟩
  else ⟨x.val - 1, by have := x.min_le; omega, by have := x.le_max; omega⟩

theorem dec_val {x : CInt} (h : x.val ≠ INT_MIN) : x.dec.val = x.val - 1 := by
  simp [dec, h]

/-- A decrement away from `0` takes one step off the count to `0`. -/
theorem toUnsigned_dec {x : CInt} (h : x.val ≠ 0) : x.dec.toUnsigned + 1 = x.toUnsigned := by
  have h₁ := x.min_le
  have h₂ := x.le_max
  unfold dec toUnsigned
  split <;> simp only [INT_MIN, INT_MAX] at * <;> omega

/-- `a * b` on `int`, when the product is an `int`; C leaves an overflowing
    product undefined. -/
def mul? (a b : CInt) : Option CInt :=
  if h : INT_MIN ≤ a.val * b.val ∧ a.val * b.val ≤ INT_MAX then some (mk (a.val * b.val) h.1 h.2)
  else none

theorem mul?_eq_some_iff {a b c : CInt} : a.mul? b = some c ↔ c.val = a.val * b.val := by
  unfold mul?
  split
  · cases c
    simp [eq_comm]
  · rename_i hr
    simp only [reduceCtorEq, false_iff]
    exact fun h => hr ⟨h ▸ c.min_le, h ▸ c.le_max⟩

theorem mul?_isSome_iff {a b : CInt} :
    (a.mul? b).isSome ↔ INT_MIN ≤ a.val * b.val ∧ a.val * b.val ≤ INT_MAX := by
  unfold mul?
  split <;> simp_all

end CInt

/-! ## `atoi` -/

/-- `isspace` in the C locale. -/
def isspace (c : Char) : Bool :=
  c = ' ' || c = '\t' || c = '\n' || c = '\x0b' || c = '\x0c' || c = '\r'

/-- The value of the decimal digits at the head of `s`, read after `acc`. -/
def digitsValue (acc : Nat) : List Char → Nat
  | c :: s => if c.isDigit then digitsValue (10 * acc + (c.toNat - '0'.toNat)) s else acc
  | [] => acc

/-- `LONG_MIN` of the 64-bit `long` of x86-64. -/
def LONG_MIN : Int := -9223372036854775808

/-- `LONG_MAX` of the 64-bit `long` of x86-64. -/
def LONG_MAX : Int := 9223372036854775807

/-- `strtol(s, NULL, 10)`: the value of the decimal numeral after the white
    space and the sign, `LONG_MIN` or `LONG_MAX` when it is out of range. -/
def strtol (s : List Char) : Int :=
  match s.dropWhile isspace with
  | '-' :: t => max LONG_MIN (-(digitsValue 0 t : Int))
  | '+' :: t => min (digitsValue 0 t) LONG_MAX
  | t => min (digitsValue 0 t) LONG_MAX

/-- `(int) v` for a `long` `v`: gcc keeps the low 32 bits, read in two's
    complement. -/
def CInt.ofLong (v : Int) : CInt :=
  ⟨(v + 2147483648) % 4294967296 - 2147483648, by unfold INT_MIN; omega,
    by unfold INT_MAX; omega⟩

/-- `atoi(s)`: `(int) strtol(s, NULL, 10)` (bionic and glibc alike). -/
def atoi (s : List Char) : CInt := CInt.ofLong (strtol s)

example : (atoi " -42x".toList).val = -42 := by decide

/-- A value past `INT_MAX` comes back negative: `2147483648` is `INT_MIN`. -/
example : (atoi "2147483648".toList).val = INT_MIN := by decide

end Droidboot
