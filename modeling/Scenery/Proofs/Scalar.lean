import Mathlib.Algebra.Order.Ring.Rat
import Mathlib.Order.WithBot
import Mathlib.Tactic.Lift
import Scenery.Scalar

/-!
# Numbers in order, and exact numbers

Machine numbers are neither in a total order nor exact.  Two replacements for
them are of use in stating what the program is meant to compute.

*Ordered numbers.*  `OrderedScalar` asks for a total order with the infinities at
its ends, in which `Scalar.lesser` and `Scalar.greater` are what they say.  It
asks nothing of arithmetic.  What is only compared, such as a bounding box, can be
reasoned about over any such type.  `OrderedAngular` has sines and cosines besides,
of which it asks nothing.

*Exact numbers.*  `Exact` is the rational numbers with a value below and a value
above all of them.  Sums and products of rational numbers are the rational ones.
What they are when one side is an infinity is of no account: where it matters,
both sides are shown to be `Exact.Finite`.  Roots and angles do not stay within
the rational numbers.  So `Approximation` takes any functions for them, and what is
shown of exact numbers is shown for all of these.
-/

namespace Scenery

/-- Numbers in a total order with the infinities at its ends. -/
class OrderedScalar (α : Type) extends Scalar α, LinearOrder α where
  lesser_eq_min : ∀ a b : α, Scalar.lesser a b = min a b
  greater_eq_max : ∀ a b : α, Scalar.greater a b = max a b
  le_infinity : ∀ a : α, a ≤ Scalar.infinity
  neg_infinity_le : ∀ a : α, -Scalar.infinity ≤ a
  neg_infinity_lt : -Scalar.infinity < (Scalar.infinity : α)

/-- Numbers in a total order, with what is needed to turn angles into directions. -/
class OrderedAngular (α : Type) extends OrderedScalar α, Angular α

/-- A rational number, or an infinity below or above all of them. -/
inductive Exact where
  | below
  | num (q : ℚ)
  | above
deriving DecidableEq

namespace Exact

/-! ## The order -/

/-- The place of a value among the rational numbers and two ends. -/
def rank : Exact → WithBot (WithTop ℚ)
  | below => ⊥
  | num q => ((q : WithTop ℚ) : WithBot (WithTop ℚ))
  | above => ((⊤ : WithTop ℚ) : WithBot (WithTop ℚ))

theorem rank_injective : Function.Injective rank := by
  intro a b h
  cases a <;> cases b <;> simp_all [rank]

instance : LinearOrder Exact := .lift' rank rank_injective

theorem le_iff_rank {a b : Exact} : a ≤ b ↔ a.rank ≤ b.rank := Iff.rfl

@[simp] theorem num_le_num {p q : ℚ} : num p ≤ num q ↔ p ≤ q := by
  rw [le_iff_rank, rank, rank, WithBot.coe_le_coe, WithTop.coe_le_coe]

theorem below_le (a : Exact) : below ≤ a := le_iff_rank.mpr bot_le

theorem le_above (a : Exact) : a ≤ above := le_iff_rank.mpr le_top

/-! ## Arithmetic -/

/-- An operation on rational numbers.  An infinity on either side stays. -/
def lift (f : ℚ → ℚ → ℚ) : Exact → Exact → Exact
  | num p, num q => num (f p q)
  | num _, b => b
  | a, _ => a

/-- An operation on a rational number.  An infinity stays. -/
def lift₁ (f : ℚ → ℚ) : Exact → Exact
  | num q => num (f q)
  | a => a

/-- The opposite value. -/
def opposite : Exact → Exact
  | below => above
  | num q => num (-q)
  | above => below

instance : Zero Exact := ⟨num 0⟩
instance : One Exact := ⟨num 1⟩
instance : Add Exact := ⟨lift (· + ·)⟩
instance : Sub Exact := ⟨lift (· - ·)⟩
instance : Neg Exact := ⟨opposite⟩
instance : Mul Exact := ⟨lift (· * ·)⟩
instance : Div Exact := ⟨lift (· / ·)⟩

/-- A choice of functions for what rational numbers have no exact ones.  Angles are
in radians.  Nothing is asked of the functions. -/
class Approximation where
  sqrt : ℚ → ℚ
  sin : ℚ → ℚ
  cos : ℚ → ℚ
  halfTurn : ℚ

section

variable [Approximation]

instance : Scalar Exact where
  decLt := inferInstance
  decLe := inferInstance
  ofCount n := num n
  lesser := min
  greater := max
  abs a := max a (-a)
  sqrt := lift₁ Approximation.sqrt
  isFinite
    | num _ => true
    | _ => false
  infinity := above
  epsilon := num (1 / 2 ^ 23)

instance : Angular Exact where
  sin := lift₁ Approximation.sin
  cos := lift₁ Approximation.cos
  halfTurn := num Approximation.halfTurn
  toRadians := lift₁ fun degrees => degrees * (Approximation.halfTurn / 180)

instance : OrderedScalar Exact where
  lesser_eq_min _ _ := rfl
  greater_eq_max _ _ := rfl
  le_infinity := le_above
  neg_infinity_le := below_le
  neg_infinity_lt := lt_of_le_of_ne (below_le _) (by intro h; cases h)

instance : OrderedAngular Exact :=
  { (inferInstance : OrderedScalar Exact), (inferInstance : Angular Exact) with }

end

/-! ## Values that are numbers -/

/-- A value is a number. -/
def Finite (a : Exact) : Prop := ∃ q, a = num q

instance : CanLift Exact ℚ num Finite := ⟨fun _ ⟨q, h⟩ => ⟨q, h.symm⟩⟩

namespace Finite

theorem num (q : ℚ) : (Exact.num q).Finite := ⟨q, rfl⟩

theorem zero : (0 : Exact).Finite := ⟨0, rfl⟩

theorem one : (1 : Exact).Finite := ⟨1, rfl⟩

variable {a b : Exact}

theorem add (ha : a.Finite) (hb : b.Finite) : (a + b).Finite := by
  lift a to ℚ using ha
  lift b to ℚ using hb
  exact ⟨a + b, rfl⟩

theorem mul (ha : a.Finite) (hb : b.Finite) : (a * b).Finite := by
  lift a to ℚ using ha
  lift b to ℚ using hb
  exact ⟨a * b, rfl⟩

theorem min (ha : a.Finite) (hb : b.Finite) : (Min.min a b).Finite := by
  rcases min_choice a b with h | h
  · rwa [h]
  · rwa [h]

theorem max (ha : a.Finite) (hb : b.Finite) : (Max.max a b).Finite := by
  rcases max_choice a b with h | h
  · rwa [h]
  · rwa [h]

end Finite

/-! ## Sums and products in order -/

variable {a b c d l x h : Exact}

theorem add_le_add_of_finite (ha : a.Finite) (hb : b.Finite) (hc : c.Finite) (hd : d.Finite)
    (hab : a ≤ b) (hcd : c ≤ d) : a + c ≤ b + d := by
  lift a to ℚ using ha
  lift b to ℚ using hb
  lift c to ℚ using hc
  lift d to ℚ using hd
  exact num_le_num.mpr (add_le_add (num_le_num.mp hab) (num_le_num.mp hcd))

/-- On an interval a multiple is least at one end and greatest at the other: which
is which depends on the sign of the factor. -/
theorem exists_ends (ha : a.Finite) (hl : l.Finite) (hx : x.Finite) (hh : h.Finite)
    (hlx : l ≤ x) (hxh : x ≤ h) :
    ∃ e f, (e = l ∨ e = h) ∧ (f = l ∨ f = h) ∧ a * e ≤ a * x ∧ a * x ≤ a * f := by
  lift a to ℚ using ha
  lift l to ℚ using hl
  lift x to ℚ using hx
  lift h to ℚ using hh
  rw [num_le_num] at hlx hxh
  rcases le_total 0 a with hpos | hneg
  · exact ⟨num l, num h, Or.inl rfl, Or.inr rfl,
      num_le_num.mpr (mul_le_mul_of_nonneg_left hlx hpos),
      num_le_num.mpr (mul_le_mul_of_nonneg_left hxh hpos)⟩
  · exact ⟨num h, num l, Or.inr rfl, Or.inl rfl,
      num_le_num.mpr (mul_le_mul_of_nonpos_left hxh hneg),
      num_le_num.mpr (mul_le_mul_of_nonpos_left hlx hneg)⟩

end Exact

end Scenery
