import Scenery.Proofs.Scalar
import Scenery.Transform

/-!
# Exact matrices

Exact numbers compute as rational numbers do as long as no infinity comes in.  So
the vectors and matrices to compute with are those that are finite in every
place, and every operation on them gives one again.

`Mat4.Finite` asks no more of the last row than of the others.  An affine matrix,
which has zeros and a one there, is a case of it.  Each coordinate of a moved point
is the sum that one row makes of the point's coordinates (`Mat4.apply_eq`), and grows
with each of its terms (`Vec4.Finite.form_le_form`).

A transform is finite if its steps are (`Transform.Finite`).  Then so is its matrix,
whatever the sines and cosines are taken to be (`Transform.Finite.matrix`).
-/

namespace Scenery

open Exact

/-! ## Vectors -/

/-- The components of a vector are numbers. -/
structure Vec3.Finite (v : Vec3 Exact) : Prop where
  x : v.x.Finite
  y : v.y.Finite
  z : v.z.Finite

/-- The components of a vector are numbers. -/
structure Vec4.Finite (v : Vec4 Exact) : Prop where
  x : v.x.Finite
  y : v.y.Finite
  z : v.z.Finite
  w : v.w.Finite

namespace Vec3.Finite

variable [Approximation] {a b : Vec3 Exact}

theorem lesser (ha : a.Finite) (hb : b.Finite) : (a.lesser b).Finite :=
  ⟨ha.x.min hb.x, ha.y.min hb.y, ha.z.min hb.z⟩

theorem greater (ha : a.Finite) (hb : b.Finite) : (a.greater b).Finite :=
  ⟨ha.x.max hb.x, ha.y.max hb.y, ha.z.max hb.z⟩

end Vec3.Finite

namespace Vec4.Finite

variable [Approximation] {a b : Vec4 Exact}

theorem add (ha : a.Finite) (hb : b.Finite) : (a + b).Finite :=
  ⟨ha.x.add hb.x, ha.y.add hb.y, ha.z.add hb.z, ha.w.add hb.w⟩

theorem scale (ha : a.Finite) {s : Exact} (hs : s.Finite) : (a.scale s).Finite :=
  ⟨ha.x.mul hs, ha.y.mul hs, ha.z.mul hs, ha.w.mul hs⟩

end Vec4.Finite

/-! ## Matrices -/

/-- The entries of a matrix are numbers. -/
structure Mat4.Finite (m : Mat4 Exact) : Prop where
  c0 : m.c0.Finite
  c1 : m.c1.Finite
  c2 : m.c2.Finite
  c3 : m.c3.Finite

namespace Mat4

variable [Approximation] {m n : Mat4 Exact}

/-- A finite matrix takes finite columns to finite ones. -/
theorem Finite.column (hm : m.Finite) {v : Vec4 Exact} (hv : v.Finite) : (m.column v).Finite :=
  (((hm.c0.scale hv.x).add (hm.c1.scale hv.y)).add (hm.c2.scale hv.z)).add (hm.c3.scale hv.w)

/-- A product of finite matrices is finite. -/
theorem Finite.mul (hm : m.Finite) (hn : n.Finite) : (m * n).Finite :=
  ⟨hm.column hn.c0, hm.column hn.c1, hm.column hn.c2, hm.column hn.c3⟩

theorem finite_scaling {s : Vec3 Exact} (hs : s.Finite) : (scaling s).Finite where
  c0 := ⟨hs.x, .zero, .zero, .zero⟩
  c1 := ⟨.zero, hs.y, .zero, .zero⟩
  c2 := ⟨.zero, .zero, hs.z, .zero⟩
  c3 := ⟨.zero, .zero, .zero, .one⟩

theorem finite_identity : (identity : Mat4 Exact).Finite where
  c0 := ⟨.one, .zero, .zero, .zero⟩
  c1 := ⟨.zero, .one, .zero, .zero⟩
  c2 := ⟨.zero, .zero, .one, .zero⟩
  c3 := ⟨.zero, .zero, .zero, .one⟩

theorem finite_shifting {t : Vec3 Exact} (ht : t.Finite) : (shifting t).Finite :=
  { finite_identity with c3 := ⟨ht.x, ht.y, ht.z, .one⟩ }

end Mat4

/-! ## Coordinates -/

/-- A sum of multiples of the coordinates of a point, and a number besides. -/
def Vec4.form (c : Vec4 Exact) (p : Vec3 Exact) : Exact :=
  c.w + (c.z * p.z + (c.y * p.y + c.x * p.x))

/-- The sum grows with each of the multiples. -/
theorem Vec4.Finite.form_le_form {c : Vec4 Exact} (hc : c.Finite) {p q : Vec3 Exact}
    (hp : p.Finite) (hq : q.Finite) (hx : c.x * p.x ≤ c.x * q.x) (hy : c.y * p.y ≤ c.y * q.y)
    (hz : c.z * p.z ≤ c.z * q.z) : c.form p ≤ c.form q := by
  have hxp := hc.x.mul hp.x
  have hxq := hc.x.mul hq.x
  have hyp := hc.y.mul hp.y
  have hyq := hc.y.mul hq.y
  have hzp := hc.z.mul hp.z
  have hzq := hc.z.mul hq.z
  have hyx := add_le_add_of_finite hyp hyq hxp hxq hy hx
  have hzyx := add_le_add_of_finite hzp hzq (hyp.add hxp) (hyq.add hxq) hz hyx
  exact add_le_add_of_finite hc.w hc.w (hzp.add (hyp.add hxp)) (hzq.add (hyq.add hxq)) le_rfl hzyx

namespace Mat4

def rowX (m : Mat4 Exact) : Vec4 Exact := ⟨m.c0.x, m.c1.x, m.c2.x, m.c3.x⟩

def rowY (m : Mat4 Exact) : Vec4 Exact := ⟨m.c0.y, m.c1.y, m.c2.y, m.c3.y⟩

def rowZ (m : Mat4 Exact) : Vec4 Exact := ⟨m.c0.z, m.c1.z, m.c2.z, m.c3.z⟩

/-- A point goes where the three rows take it. -/
theorem apply_eq [Approximation] (m : Mat4 Exact) (p : Vec3 Exact) :
    m.apply p = ⟨m.rowX.form p, m.rowY.form p, m.rowZ.form p⟩ := rfl

variable {m : Mat4 Exact}

theorem Finite.rowX (h : m.Finite) : m.rowX.Finite := ⟨h.c0.x, h.c1.x, h.c2.x, h.c3.x⟩

theorem Finite.rowY (h : m.Finite) : m.rowY.Finite := ⟨h.c0.y, h.c1.y, h.c2.y, h.c3.y⟩

theorem Finite.rowZ (h : m.Finite) : m.rowZ.Finite := ⟨h.c0.z, h.c1.z, h.c2.z, h.c3.z⟩

end Mat4

/-! ## Transforms -/

variable [Approximation]

/-- The rotation by angles that are numbers is finite: each of its entries comes
out of sums and products of sines and cosines. -/
theorem Mat4.finite_rotation {degrees : Vec3 Exact} (h : degrees.Finite) :
    (rotation (.ofDegrees degrees)).Finite := by
  obtain ⟨⟨x, hx⟩, ⟨y, hy⟩, ⟨z, hz⟩⟩ := h
  obtain rfl : degrees = ⟨num x, num y, num z⟩ := Vec3.ext hx hy hz
  constructor <;> constructor <;> exact ⟨_, rfl⟩

/-- The amounts of the steps of a transform are numbers. -/
def Transform.Finite (t : Transform Exact) : Prop := ∀ step ∈ t.steps, step.amount.Finite

/-- A step of a finite amount has a finite matrix, a turn of any angle too. -/
theorem Step.finite_matrix {step : Step Exact} (h : step.amount.Finite) : step.matrix.Finite := by
  rw [matrix]
  cases step.kind with
  | translate => exact Mat4.finite_shifting h
  | rotate => exact Mat4.finite_rotation h
  | scale => exact Mat4.finite_scaling h

/-- A transform of finite steps has a finite matrix. -/
theorem Transform.Finite.matrix {t : Transform Exact} (h : t.Finite) : t.matrix.Finite := by
  refine List.foldlRecOn t.steps _ Mat4.finite_identity ?_
  intro m hm step hstep
  exact hm.mul (Step.finite_matrix (h step hstep))

end Scenery
