import AwsLc.X25519.XLine

/-! # A model of the x-only contract

    The results on X25519 assume the backends meet `X25519Impl.Meets` over
    some `XLine`. This file builds one, so that those results are not
    vacuous: the curve is the cyclic group `ℤ/8ℓ`, the twist `ℤ/4ℓ'`, with
    the group orders of Curve25519 and its twist.

    A u-coordinate cannot tell apart points that differ by a point of
    order 2, and in a cyclic group `ℤ/2m` that point is `m`. So the
    u-coordinate of `P` is a label of `P mod m`: on the curve the
    representative itself with 8 and 9 exchanged (the base point `8`, of
    order `ℓ`, gets u = 9), on the twist the representatives `1 … 2ℓ' - 1`
    placed after those of the curve. The two label sets are `[0, 4ℓ)` and
    `[4ℓ, p)`, since `4ℓ + 2ℓ' - 1 = p`: every field element is a
    u-coordinate on exactly one side (0 on both). The ladder `cyclicLadder`
    inverts the label and multiplies the class.
-/

namespace Curve25519

/-! ## Section 1: Labels of the classes modulo the 2-torsion -/

section Classes

variable {m : Nat} (lab : Nat → Nat)

/-- The u-coordinate of `P : ℤ/2m`: the label of its class modulo `m`. -/
def classU (P : ZMod (2 * m)) : ZMod p25519 := (lab (P.val % m) : ZMod p25519)

theorem ZMod.val_nsmul {n : Nat} (c : Nat) (P : ZMod n) : (c • P).val = c * P.val % n := by
  rw [nsmul_eq_mul, ZMod.val_mul, ZMod.val_natCast, Nat.mod_mul_mod]

theorem two_nsmul_eq_zero_iff_mod (P : ZMod (2 * m)) : 2 • P = 0 ↔ P.val % m = 0 := by
  rw [← ZMod.val_eq_zero, ZMod.val_nsmul, Nat.mul_mod_mul_left]
  omega

theorem exponent_two_mul (P : ZMod (2 * m)) : (2 * m) • P = 0 := by
  rw [nsmul_eq_mul, ZMod.natCast_self, zero_mul]

/-- The class of a multiple is the multiple of the class. -/
theorem classU_nsmul (c : Nat) (P : ZMod (2 * m)) :
    classU lab (c • P) = (lab (c * (P.val % m) % m) : ZMod p25519) := by
  rw [classU, ZMod.val_nsmul, Nat.mod_mod_of_dvd _ (Dvd.intro_left 2 rfl), Nat.mul_mod_mod]

theorem classU_natCast {x : Nat} (hx : x < m) : classU lab (x : ZMod (2 * m)) = lab x := by
  rw [classU, ZMod.val_natCast_of_lt (by omega), Nat.mod_eq_of_lt hx]

variable [NeZero m] {lab} (hlt : ∀ x < m, lab x < p25519)
include hlt

theorem val_classU (P : ZMod (2 * m)) : (classU lab P).val = lab (P.val % m) :=
  ZMod.val_natCast_of_lt (hlt _ (Nat.mod_lt _ (NeZero.pos m)))

/-- u = 0 exactly on the 2-torsion, when only the class 0 is labelled 0. -/
theorem classU_eq_zero_iff (hzero : ∀ x < m, lab x = 0 ↔ x = 0) (P : ZMod (2 * m)) :
    classU lab P = 0 ↔ 2 • P = 0 := by
  rw [← ZMod.val_eq_zero, val_classU hlt, hzero _ (Nat.mod_lt _ (NeZero.pos m)),
    two_nsmul_eq_zero_iff_mod]

end Classes

/-! ## Section 2: The labels of the curve and of the twist -/

/-- `4ℓ + 2ℓ' - 1 = p`: the classes of the curve and of the twist, 0
    counted once, are as many as the field elements. -/
theorem classes_card : 4 * L + 2 * Ltwist - 1 = p25519 := by decide

/-- The curve's label: the representative, with 8 and 9 exchanged. -/
def swap89 (x : Nat) : Nat := if x = 8 then 9 else if x = 9 then 8 else x

theorem swap89_swap89 (x : Nat) : swap89 (swap89 x) = x := by
  unfold swap89
  split_ifs <;> omega

theorem swap89_lt {x : Nat} (hx : x < 4 * L) : swap89 x < 4 * L := by
  have : 9 < 4 * L := by decide
  unfold swap89
  split_ifs <;> omega

theorem swap89_eq_zero_iff (x : Nat) : swap89 x = 0 ↔ x = 0 := by
  unfold swap89
  split_ifs <;> simp_all

/-- The twist's label: class `y ≠ 0` goes to `4ℓ - 1 + y`, after the curve's. -/
def twistLabel (y : Nat) : Nat := if y = 0 then 0 else 4 * L - 1 + y

theorem twistLabel_inv (y : Nat) : twistLabel y - (4 * L - 1) = y := by
  unfold twistLabel
  split_ifs <;> omega

theorem twistLabel_lt {y : Nat} (hy : y < 2 * Ltwist) : twistLabel y < p25519 := by
  have := classes_card
  have := NeZero.pos L
  unfold twistLabel
  split_ifs <;> omega

theorem twistLabel_eq_zero_iff {y : Nat} : twistLabel y = 0 ↔ y = 0 := by
  have : 0 < L := NeZero.pos L
  unfold twistLabel
  split_ifs <;> omega

theorem swap89_lt_p {x : Nat} (hx : x < 4 * L) : swap89 x < p25519 :=
  (swap89_lt hx).trans_le (by decide)

/-! ## Section 3: The model -/

/-- The x-line of `ℤ/8ℓ` and `ℤ/4ℓ'`, with base point `8`. -/
def cyclicXLine : XLine (ZMod (2 * (4 * L))) (ZMod (2 * (2 * Ltwist))) where
  uE := classU swap89
  uT := classU twistLabel
  base := ((8 : Nat) : ZMod (2 * (4 * L)))
  u_base := by rw [classU_natCast _ (by decide)]; rfl
  order_base := by
    rw [ZMod.addOrderOf_coe _ (NeZero.ne _), show 2 * (4 * L) = L * 8 by ring,
      Nat.gcd_mul_left_left, Nat.mul_div_cancel _ (by norm_num)]
  exponent_E P := by rw [show 8 * L = 2 * (4 * L) by ring, exponent_two_mul]
  exponent_T Q := by rw [show 4 * Ltwist = 2 * (2 * Ltwist) by ring, exponent_two_mul]
  uE_eq_zero := classU_eq_zero_iff (fun _ => swap89_lt_p) fun x _ => swap89_eq_zero_iff x
  uT_eq_zero := classU_eq_zero_iff (fun _ => twistLabel_lt) fun _ _ => twistLabel_eq_zero_iff
  covers u := by
    by_cases hu : u.val < 4 * L
    · refine .inl ⟨(swap89 u.val : Nat), ?_⟩
      rw [classU_natCast _ (swap89_lt hu), swap89_swap89, ZMod.natCast_zmod_val]
    · have := classes_card
      have hlt : u.val - (4 * L - 1) < 2 * Ltwist := by have := ZMod.val_lt u; omega
      have hne : u.val - (4 * L - 1) ≠ 0 := by have := NeZero.pos L; omega
      refine .inr ⟨(u.val - (4 * L - 1) : Nat), ?_⟩
      rw [classU_natCast _ hlt, twistLabel, if_neg hne,
        show 4 * L - 1 + (u.val - (4 * L - 1)) = u.val by omega, ZMod.natCast_zmod_val]

/-- The ladder of the model: recover the class of the peer value, multiply
    it by the scalar, and label the result. -/
def cyclicLadder (s u : Bytes 32) : Bytes 32 :=
  let v := (decodeU u).val
  encodeU (if v < 4 * L then (swap89 (s.leValue * swap89 v % (4 * L)) : ZMod p25519)
    else (twistLabel (s.leValue * (v - (4 * L - 1)) % (2 * Ltwist)) : ZMod p25519))

/-- `cyclicLadder` is a ladder of `cyclicXLine`. -/
theorem cyclicLadder_ladder : cyclicXLine.Ladder cyclicLadder where
  curve s u P h := by
    have hv : (decodeU u).val = swap89 (P.val % (4 * L)) := by
      rw [← h]; exact val_classU (fun _ => swap89_lt_p) P
    have hlt : swap89 (P.val % (4 * L)) < 4 * L := swap89_lt (Nat.mod_lt _ (NeZero.pos _))
    simp only [cyclicLadder, cyclicXLine, classU_nsmul, hv, hlt, if_true, swap89_swap89]
  twist s u Q h := by
    have hv : (decodeU u).val = twistLabel (Q.val % (2 * Ltwist)) := by
      rw [← h]; exact val_classU (fun _ => twistLabel_lt) Q
    simp only [cyclicLadder, cyclicXLine, classU_nsmul]
    by_cases hQ : Q.val % (2 * Ltwist) = 0
    · have : (decodeU u).val < 4 * L := by
        rw [hv, hQ, twistLabel_eq_zero_iff.mpr rfl]; exact Nat.mul_pos (by norm_num) (NeZero.pos L)
      simp only [if_pos this, hv, hQ, twistLabel, swap89, mul_zero, Nat.zero_mod, if_true]
      rfl
    · have : ¬ (decodeU u).val < 4 * L := by
        rw [hv, twistLabel, if_neg hQ]; omega
      rw [if_neg this, hv, twistLabel_inv]

/-- The base ladder of the model: the ladder at u = 9. -/
def nineBytes : Bytes 32 := Bytes.ofNat 32 9

theorem decodeU_nineBytes : decodeU nineBytes = 9 := by
  simp [decodeU, nineBytes, Bytes.leValue_ofNat]

/-- The backends of the model: the ladder, and the ladder at u = 9. -/
def cyclicImpl : X25519Impl where
  curve25519_x25519_byte := cyclicLadder
  curve25519_x25519_byte_alt := cyclicLadder
  curve25519_x25519base_byte s := cyclicLadder s nineBytes
  curve25519_x25519base_byte_alt s := cyclicLadder s nineBytes
  x25519_scalar_mult_generic_nohw := cyclicLadder
  x25519_public_from_private_nohw s := cyclicLadder s nineBytes

/-- **The contract is satisfiable**: `cyclicImpl` meets it over `cyclicXLine`. -/
theorem cyclicImpl_meets : cyclicImpl.Meets cyclicXLine :=
  have hbase : cyclicXLine.BaseLadder fun s => cyclicLadder s nineBytes := fun s =>
    cyclicLadder_ladder.curve s _ _ (cyclicXLine.u_base.trans decodeU_nineBytes.symm)
  ⟨cyclicLadder_ladder, cyclicLadder_ladder, hbase, hbase⟩

end Curve25519
