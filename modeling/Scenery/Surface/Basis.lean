import Scenery.Vector

/-!
# Knots and basis functions

A B-spline of degree `p` with `n + 1` control points has `n + p + 2` knots, which
divide its parameters into spans.  On the span from knot `s` to knot `s + 1`
only the `p + 1` control points from `s - p` on have a say, and the basis
functions are their shares.

* `toDomain?` maps a parameter between zero and one to the part of the knots on
  which all shares are defined, from knot `p` to the `p`-th last but one.
* `findSpan?` looks for the span of a parameter by halving.
* `shares?` finds the basis functions degree by degree.  A share of degree `j`
  is a mean of two shares of degree `j - 1`.  A mean over an interval no longer
  than `Scalar.epsilon` counts for nothing (`raise`).

Every look-up of a knot, and every difference of two indices, may fail here:
the result is nothing where an index would leave the knots, and nothing where
the search for a span would not get on.
-/

namespace Scenery.Surface

variable {α : Type} [Scalar α]

/-- The difference of two indices, if it is one. -/
def minus? (a b : Nat) : Option Nat := if b ≤ a then some (a - b) else none

/-- The knots of a single span: `degree + 1` zeros and as many ones. -/
def clampedKnots (degree : Nat) : Array α :=
  (List.replicate (degree + 1) (0 : α) ++ List.replicate (degree + 1) 1).toArray

theorem size_clampedKnots (degree : Nat) :
    (clampedKnots degree : Array α).size = degree + degree + 2 := by
  rw [clampedKnots, List.size_toArray, List.length_append, List.length_replicate,
    List.length_replicate]
  omega

/-- A parameter between zero and one, as a parameter of the knots. -/
def toDomain? (knots : Array α) (degree : Nat) (t : α) : Option α := do
  let low ← knots[degree]?
  let last ← minus? knots.size degree
  let last ← minus? last 1
  let high ← knots[last]?
  return low + Scalar.clamp 0 1 t * (high - low)

/-- Halve the span from knot `low` to knot `high` until the parameter lies
between a knot and the next one. -/
def searchSpan? (knots : Array α) (u : α) (low high : Nat) : Option Nat := do
  let mid := (low + high) / 2
  let here ← knots[mid]?
  if u < here then
    if mid < high then searchSpan? knots u low mid else none
  else
    let next ← knots[mid + 1]?
    if next ≤ u then
      if low < mid then searchSpan? knots u mid high else none
    else some mid
termination_by high - low

/-- The span of a parameter, for `n + 1` control points. -/
def findSpan? (n degree : Nat) (u : α) (knots : Array α) : Option Nat := do
  let last ← knots[n + 1]?
  if last ≤ u then some n
  else
    let first ← knots[degree]?
    if u ≤ first then some degree else searchSpan? knots u degree (n + 1)

/-- The distances from the parameter up to the knots after the span, nearest
first. -/
def above? (knots : Array α) (span degree : Nat) (u : α) : Option (List α) :=
  (List.range degree).mapM fun i => do
    let knot ← knots[span + (i + 1)]?
    return knot - u

/-- The distances from the knots before the span up to the parameter, nearest
first. -/
def below? (knots : Array α) (span degree : Nat) (u : α) : Option (List α) :=
  (List.range degree).mapM fun i => do
    let index ← minus? span i
    let knot ← knots[index]?
    return u - knot

/-- The shares of the next degree.  Each pair holds the distances to a knot
above and to a knot below, `carried` is the part of the last share that goes to
the next one. -/
def raise : List (α × α) → α → List α → List α
  | (up, down) :: pairs, carried, share :: shares =>
      let width := up + down
      let part := if Scalar.epsilon < Scalar.abs width then share / width else 0
      (carried + up * part) :: raise pairs (down * part) shares
  | _, carried, _ => [carried]

/-- The shares of a degree, from the distances to the knots above and below. -/
def shares (above below : List α) (degree : Nat) : List α :=
  (List.range degree).foldl
    (fun row i => raise ((above.take (i + 1)).zip (below.take (i + 1)).reverse) 0 row) [1]

/-- The shares of the control points of a span. -/
def shares? (span : Nat) (u : α) (degree : Nat) (knots : Array α) : Option (List α) := do
  let above ← above? knots span degree u
  let below ← below? knots span degree u
  return shares above below degree

end Scenery.Surface
