import Mathlib.Algebra.Module.BigOperators
import Mathlib.Analysis.Convex.Combination
import Scenery.Bounds
import Scenery.Proofs.Scalar.Field

/-!
# Vector spaces

Over numbers of a field the vectors of three and of four numbers are vector spaces, with the
sums and multiples they are computed with.  So sums over index sets, means and convex hulls
of points of space can be taken from the library.

A vector of four numbers is a point with its weight.  Both parts are linear in the vector
(`Vec4.pointMap`, `Vec4.weightMap`), so they are taken of a sum term by term.
-/

namespace Scenery

variable {α : Type} [FieldScalar α]

/-! ## Space -/

namespace Vec3

theorem add_eq (a b : Vec3 α) : a + b = ⟨a.x + b.x, a.y + b.y, a.z + b.z⟩ := rfl

theorem sub_eq (a b : Vec3 α) : a - b = ⟨a.x - b.x, a.y - b.y, a.z - b.z⟩ := rfl

instance : Zero (Vec3 α) := ⟨.zero⟩

instance : Neg (Vec3 α) := ⟨fun a => ⟨-a.x, -a.y, -a.z⟩⟩

instance : SMul α (Vec3 α) := ⟨fun c a => a.scale c⟩

theorem zero_eq : (0 : Vec3 α) = ⟨0, 0, 0⟩ := rfl

theorem neg_eq (a : Vec3 α) : -a = ⟨-a.x, -a.y, -a.z⟩ := rfl

theorem smul_eq (c : α) (a : Vec3 α) : c • a = ⟨a.x * c, a.y * c, a.z * c⟩ := rfl

instance : AddCommGroup (Vec3 α) where
  add_assoc a b c := by simp only [add_eq, add_assoc]
  zero_add a := by simp only [add_eq, zero_eq, zero_add]
  add_zero a := by simp only [add_eq, zero_eq, add_zero]
  add_comm a b := by simp only [add_eq, add_comm]
  neg_add_cancel a := by simp only [add_eq, neg_eq, zero_eq, neg_add_cancel]
  sub_eq_add_neg a b := by simp only [add_eq, neg_eq, sub_eq, sub_eq_add_neg]
  nsmul := nsmulRec
  zsmul := zsmulRec

instance : Module α (Vec3 α) where
  one_smul a := by simp only [smul_eq, mul_one]
  mul_smul c d a := by simp only [smul_eq, mul_comm c, mul_assoc]
  smul_zero c := by simp only [smul_eq, zero_eq, zero_mul]
  smul_add c a b := by simp only [smul_eq, add_eq, add_mul]
  add_smul c d a := by simp only [smul_eq, add_eq, mul_add]
  zero_smul a := by simp only [smul_eq, zero_eq, mul_zero]

theorem dividedBy_eq_smul (a : Vec3 α) (c : α) : a.dividedBy c = c⁻¹ • a := by
  simp only [dividedBy, smul_eq, div_eq_mul_inv]

end Vec3

/-! ## Four numbers -/

namespace Vec4

theorem add_eq (a b : Vec4 α) : a + b = ⟨a.x + b.x, a.y + b.y, a.z + b.z, a.w + b.w⟩ := rfl

instance : Zero (Vec4 α) := ⟨.zero⟩

instance : SMul α (Vec4 α) := ⟨fun c a => a.scale c⟩

theorem zero_eq : (0 : Vec4 α) = ⟨0, 0, 0, 0⟩ := rfl

theorem smul_eq (c : α) (a : Vec4 α) : c • a = ⟨a.x * c, a.y * c, a.z * c, a.w * c⟩ := rfl

instance : AddCommMonoid (Vec4 α) where
  add_assoc a b c := by simp only [add_eq, add_assoc]
  zero_add a := by simp only [add_eq, zero_eq, zero_add]
  add_zero a := by simp only [add_eq, zero_eq, add_zero]
  add_comm a b := by simp only [add_eq, add_comm]
  nsmul := nsmulRec

instance : Module α (Vec4 α) where
  one_smul a := by simp only [smul_eq, mul_one]
  mul_smul c d a := by simp only [smul_eq, mul_comm c, mul_assoc]
  smul_zero c := by simp only [smul_eq, zero_eq, zero_mul]
  smul_add c a b := by simp only [smul_eq, add_eq, add_mul]
  add_smul c d a := by simp only [smul_eq, add_eq, mul_add]
  zero_smul a := by simp only [smul_eq, zero_eq, mul_zero]

/-- The point of a weighted point. -/
def pointMap : Vec4 α →ₗ[α] Vec3 α where
  toFun := point
  map_add' _ _ := rfl
  map_smul' _ _ := rfl

/-- The weight of a weighted point. -/
def weightMap : Vec4 α →ₗ[α] α where
  toFun := w
  map_add' _ _ := rfl
  map_smul' c a := mul_comm a.w c

end Vec4

/-! ## Boxes -/

namespace Bounds

/-- The points of a box. -/
def points (b : Bounds α) : Set (Vec3 α) :=
  {p | p.x ∈ Set.Icc b.low.x b.high.x ∧ p.y ∈ Set.Icc b.low.y b.high.y ∧
    p.z ∈ Set.Icc b.low.z b.high.z}

theorem mean_mem_Icc {low high s t a b : α} (hs : s ∈ Set.Icc low high) (ht : t ∈ Set.Icc low high)
    (ha : 0 ≤ a) (hb : 0 ≤ b) (hab : a + b = 1) : s * a + t * b ∈ Set.Icc low high := by
  have h := convex_Icc low high hs ht ha hb hab
  rwa [smul_eq_mul, smul_eq_mul, mul_comm a, mul_comm b] at h

theorem convex_points (b : Bounds α) : Convex α b.points := by
  intro p hp q hq c d hc hd hcd
  obtain ⟨hpx, hpy, hpz⟩ := hp
  obtain ⟨hqx, hqy, hqz⟩ := hq
  rw [Vec3.smul_eq, Vec3.smul_eq, Vec3.add_eq]
  exact ⟨mean_mem_Icc hpx hqx hc hd hcd, mean_mem_Icc hpy hqy hc hd hcd,
    mean_mem_Icc hpz hqz hc hd hcd⟩

end Bounds

end Scenery
