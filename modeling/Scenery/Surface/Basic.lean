import Scenery.Surface.Basis

/-!
# Rational B-spline surfaces

A surface is given by a net of weighted control points and by knots along each of
its two directions.  Its point at two parameters between zero and one is the
mean of the control points, weighted by their shares in both directions and by
their own weights (`Surface.evaluate?`).

The coordinates of the control points are kept multiplied by the weights.  The
division by the weight of the sum is left out when that weight is no larger
than `Scalar.epsilon`.

`Surface.patch?` is the surface of a single span in each direction with weights
one, the only kind that scenes declare.
-/

namespace Scenery

/-- A surface over a net of weighted control points. -/
structure Surface (α : Type) where
  /-- The degree along the rows of the net. -/
  degreeU : Nat
  /-- The degree along each row. -/
  degreeV : Nat
  /-- The knots along the rows of the net. -/
  knotsU : Array α
  /-- The knots along each row. -/
  knotsV : Array α
  /-- The control points, row by row, multiplied by their weights. -/
  net : Array (Array (Vec4 α))

namespace Surface

variable {α : Type} [Scalar α]

/-- The surface of knots and control points that are not yet multiplied by
their weights.  The rows of the net are of one length, and each direction has
as many knots as control points and one more than its degree. -/
def ofNet? (degreeU degreeV : Nat) (knotsU knotsV : Array α) (net : List (List (Vec4 α))) :
    Option (Surface α) :=
  match net with
  | [] => none
  | row :: _ =>
      if net.any fun r => r.length != row.length then none
      else if knotsU.size ≠ net.length + degreeU + 1 ∨ knotsV.size ≠ row.length + degreeV + 1 then
        none
      else
        some
          { degreeU := degreeU
            degreeV := degreeV
            knotsU := knotsU
            knotsV := knotsV
            net := (net.map fun r =>
              (r.map fun p => (⟨p.x * p.w, p.y * p.w, p.z * p.w, p.w⟩ : Vec4 α)).toArray).toArray }

/-- The surface of one span in each direction. -/
def patch? (degreeU degreeV : Nat) (net : List (List (Vec3 α))) : Option (Surface α) :=
  match net with
  | [] => none
  | net => ofNet? degreeU degreeV (clampedKnots degreeU) (clampedKnots degreeV)
      (net.map fun row => row.map fun p => p.weighted 1)

/-- The sum of points, each times its share, where `point k` has the share at
place `k - from` of the list. -/
def blend? (point : Nat → Option (Vec4 α)) : Nat → List α → Vec4 α → Option (Vec4 α)
  | _, [], sum => some sum
  | k, share :: rest, sum =>
      match point k with
      | some p => blend? point (k + 1) rest (sum + p.scale share)
      | none => none

/-- The weighted point at two parameters. -/
def weightedPoint? (s : Surface α) (u v : α) : Option (Vec4 α) := do
  let u ← toDomain? s.knotsU s.degreeU u
  let v ← toDomain? s.knotsV s.degreeV v
  let lastU ← minus? s.net.size 1
  let row ← s.net[0]?
  let lastV ← minus? row.size 1
  let spanU ← findSpan? lastU s.degreeU u s.knotsU
  let spanV ← findSpan? lastV s.degreeV v s.knotsV
  let sharesU ← shares? spanU u s.degreeU s.knotsU
  let sharesV ← shares? spanV v s.degreeV s.knotsV
  let firstU ← minus? spanU s.degreeU
  let firstV ← minus? spanV s.degreeV
  let along (j : Nat) : Option (Vec4 α) :=
    blend? (fun i => s.net[i]?.bind (·[j]?)) firstU sharesU .zero
  blend? along firstV sharesV .zero

/-- A weighted point without its weight. -/
def unweighted (p : Vec4 α) : Vec3 α :=
  if Scalar.epsilon < Scalar.abs p.w then p.point.dividedBy p.w else p.point

/-- The point at two parameters between zero and one, or nothing where an index
would leave the knots or the net. -/
def evaluate? (s : Surface α) (u v : α) : Option (Vec3 α) :=
  (s.weightedPoint? u v).map unweighted

end Surface

end Scenery
