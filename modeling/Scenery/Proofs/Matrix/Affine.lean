import Scenery.Proofs.Vector

/-!
# Affine matrices

Over the numbers of a field, a matrix puts a point where its linear part takes it, and
shifts it by the last column (`Mat4.apply_eq_linear_add`).  What is in the last row plays no part in
this, but it does in a product.  Only if the right factor has the last row of the identity
does the product put a point where first the right and then the left matrix puts it
(`Mat4.apply_mul`).  Such a matrix is affine.

All matrices that shift, stretch or turn are affine, and so are their products.
-/

namespace Scenery.Mat4

variable {α : Type} [FieldScalar α]

/-- The linear part of a matrix, which goes by its first three columns. -/
def linear (m : Mat4 α) : Vec3 α →ₗ[α] Vec3 α where
  toFun v := v.x • m.c0.point + v.y • m.c1.point + v.z • m.c2.point
  map_add' v w := by
    simp only [Vec3.add_eq v w, add_smul]
    abel
  map_smul' c v := by
    simp only [Vec3.smul_eq c v, RingHom.id_apply, smul_add, smul_smul, mul_comm c]

theorem linear_eq (m : Mat4 α) (v : Vec3 α) :
    m.linear v = v.x • m.c0.point + v.y • m.c1.point + v.z • m.c2.point := rfl

theorem apply_eq_linear_add (m : Mat4 α) (p : Vec3 α) : m.apply p = m.linear p + m.c3.point := by
  have hpoint : m.apply p = Vec4.pointMap (m.c3 + (p.z • m.c2 + (p.y • m.c1 + p.x • m.c0))) := rfl
  rw [hpoint]
  simp only [map_add, map_smul, linear_eq]
  change m.c3.point + (p.z • m.c2.point + (p.y • m.c1.point + p.x • m.c0.point)) = _
  abel

/-! ## Products -/

/-- The last row of a matrix is that of the identity. -/
structure Affine (m : Mat4 α) : Prop where
  c0 : m.c0.w = 0
  c1 : m.c1.w = 0
  c2 : m.c2.w = 0
  c3 : m.c3.w = 1

variable {m n : Mat4 α}

theorem point_column (m : Mat4 α) (v : Vec4 α) :
    (m.column v).point = m.linear v.point + v.w • m.c3.point := rfl

theorem w_column (hm : m.Affine) (v : Vec4 α) : (m.column v).w = v.w := by
  change m.c0.w * v.x + m.c1.w * v.y + m.c2.w * v.z + m.c3.w * v.w = v.w
  rw [hm.c0, hm.c1, hm.c2, hm.c3]
  ring

theorem linear_mul (m : Mat4 α) (hn : n.Affine) (v : Vec3 α) :
    (m * n).linear v = m.linear (n.linear v) := by
  have hcolumn : ∀ c : Vec4 α, c.w = 0 → (m.column c).point = m.linear c.point := by
    intro c hc
    rw [point_column, hc, zero_smul, add_zero]
  rw [linear_eq, linear_eq n]
  simp only [map_add, map_smul]
  rw [← hcolumn _ hn.c0, ← hcolumn _ hn.c1, ← hcolumn _ hn.c2]
  rfl

/-- The product of two matrices puts a point where the right one and then the left one
put it. -/
theorem apply_mul (m : Mat4 α) (hn : n.Affine) (p : Vec3 α) :
    (m * n).apply p = m.apply (n.apply p) := by
  have hshift : (m * n).c3.point = m.linear n.c3.point + m.c3.point := by
    change (m.column n.c3).point = _
    rw [point_column, hn.c3, one_smul]
  rw [apply_eq_linear_add, apply_eq_linear_add m, apply_eq_linear_add n, linear_mul m hn, hshift,
    map_add, add_assoc]

theorem Affine.mul (hm : m.Affine) (hn : n.Affine) : (m * n).Affine where
  c0 := (w_column hm n.c0).trans hn.c0
  c1 := (w_column hm n.c1).trans hn.c1
  c2 := (w_column hm n.c2).trans hn.c2
  c3 := (w_column hm n.c3).trans hn.c3

/-! ## The matrices of a scene -/

theorem affine_identity : (identity : Mat4 α).Affine := ⟨rfl, rfl, rfl, rfl⟩

theorem affine_shifting (t : Vec3 α) : (shifting t).Affine := ⟨rfl, rfl, rfl, rfl⟩

theorem affine_scaling (s : Vec3 α) : (scaling s).Affine := ⟨rfl, rfl, rfl, rfl⟩

theorem affine_rotation (q : Quat α) : (rotation q).Affine := ⟨rfl, rfl, rfl, rfl⟩

theorem apply_shifting (t p : Vec3 α) : (shifting t).apply p = p + t := by
  rw [apply_eq_linear_add, linear_eq]
  simp only [shifting, identity, Vec3.weighted, Vec4.point, Vec3.smul_eq, Vec3.add_eq]
  ext <;> ring

theorem apply_identity (p : Vec3 α) : (identity : Mat4 α).apply p = p :=
  (apply_shifting 0 p).trans (add_zero p)

theorem apply_scaling (s p : Vec3 α) :
    (scaling s).apply p = ⟨p.x * s.x, p.y * s.y, p.z * s.z⟩ := by
  rw [apply_eq_linear_add, linear_eq]
  simp only [scaling, Vec4.point, Vec3.smul_eq, Vec3.add_eq]
  ext <;> ring

/-- A rotation leaves the origin where it is. -/
theorem apply_rotation (q : Quat α) (p : Vec3 α) :
    (rotation q).apply p = (rotation q).linear p := by
  rw [apply_eq_linear_add]
  exact add_zero _

end Scenery.Mat4
