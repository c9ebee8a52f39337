import AwsLc.Ed25519.ScalarCheck
import Mathlib

/-! # The arithmetic engine behind Ed25519

    `curve25519.c` orchestrates Ed25519 but does no group arithmetic of its
    own: it calls an engine (`x25519_ge_scalarmult_base`, `ge_p3_tobytes`,
    `x25519_ge_frombytes_vartime`, `fe_neg`, `ge_double_scalarmult_vartime`,
    `x25519_sc_reduce`, `sc_muladd`) whose code lives in other files. The
    engine is modelled here as a record of those operations over a type of
    points, and what the C code relies on is its contract `Engine.Meets`:
    the points form a commutative group in which the base point `B` has
    order `ℓ`, scalars are read little-endian, encoding is inverted by
    decoding, negating `X` and `T` negates a point, and the scalar routines
    compute modulo `ℓ`.

    The contract is satisfiable: `zmodEngine` runs the operations in
    `ZMod ℓ`, the cyclic group that `B` generates, and `zmodEngine_meets`
    checks every clause. It is the engine at which the theorems of
    `Ed25519.Correctness` are instantiated.
-/

namespace Curve25519

/-- The engine operations `curve25519.c` calls, over a type `G` of points. -/
structure Engine (G : Type) where
  /-- `x25519_ge_scalarmult_base(&A, a)`: the scalar in the 32 bytes at `a`, times `B`. -/
  scalarmultBase : Bytes 32 → G
  /-- `ge_p3_tobytes` and `x25519_ge_tobytes`: the 32-byte encoding of a point. -/
  tobytes : G → Bytes 32
  /-- `x25519_ge_frombytes_vartime`: decoding, `none` for a malformed encoding. -/
  frombytes : Bytes 32 → Option G
  /-- `fe_neg` and `fe_carry` applied to the `X` and `T` coordinates of a point. -/
  negXT : G → G
  /-- `ge_double_scalarmult_vartime(&R, h, &A, s)`. -/
  doubleScalarmult : Bytes 32 → G → Bytes 32 → G
  /-- `x25519_sc_reduce(s)`, which rewrites the 64-byte buffer `s` in place. -/
  scReduce : Bytes 64 → Bytes 64
  /-- `sc_muladd(s, a, b, c)`: the 32 bytes written at `s`. -/
  scMuladd : Bytes 32 → Bytes 32 → Bytes 32 → Bytes 32

/-- The mathematical contract of the engine, relative to a base point `B`. -/
structure Engine.Meets {G : Type} [AddCommGroup G] (e : Engine G) (B : G) : Prop where
  order : addOrderOf B = L
  scalarmultBase : ∀ a, e.scalarmultBase a = a.leValue • B
  frombytes_tobytes : ∀ P, e.frombytes (e.tobytes P) = some P
  negXT : ∀ P, e.negXT P = -P
  doubleScalarmult : ∀ h A s, e.doubleScalarmult h A s = h.leValue • A + s.leValue • B
  scReduce : ∀ x, (e.scReduce x).lo.leValue = x.leValue % L
  scMuladd : ∀ a b c, (e.scMuladd a b c).leValue = (a.leValue * b.leValue + c.leValue) % L

section Meets

variable {G : Type} [AddCommGroup G] {e : Engine G} {B : G}

/-- Encoding is injective: decoding inverts it. -/
theorem Engine.Meets.tobytes_injective (he : e.Meets B) : Function.Injective e.tobytes :=
  fun P Q h => Option.some_injective _ <| by
    rw [← he.frombytes_tobytes P, ← he.frombytes_tobytes Q, h]

/-- Multiples of `B` by numbers below `ℓ` are distinct. -/
theorem Engine.Meets.nsmul_inj (he : e.Meets B) {m n : Nat} (hm : m < L) (hn : n < L)
    (h : m • B = n • B) : m = n := by
  have hmod := nsmul_eq_nsmul_iff_modEq.mp h
  rw [he.order] at hmod
  simpa [Nat.ModEq, Nat.mod_eq_of_lt hm, Nat.mod_eq_of_lt hn] using hmod

/-- Scalars may be taken modulo `ℓ`. -/
theorem Engine.Meets.mod_nsmul (he : e.Meets B) (n : Nat) : (n % L) • B = n • B := by
  rw [nsmul_eq_nsmul_iff_modEq, he.order]
  exact Nat.mod_modEq n L

end Meets

/-! ## The engine in `ZMod ℓ` -/

theorem L_lt_two_pow_256 : L < 2 ^ 256 := by decide

/-- The engine computed in `ZMod ℓ`, with `B = 1`. `x25519_sc_reduce`
    writes the reduced scalar into the low half and leaves the high half. -/
def zmodEngine : Engine (ZMod L) where
  scalarmultBase a := (a.leValue : ZMod L)
  tobytes P := Bytes.ofNat 32 P.val
  frombytes b := if b.leValue < L then some (b.leValue : ZMod L) else none
  negXT P := -P
  doubleScalarmult h A s := h.leValue • A + s.leValue • (1 : ZMod L)
  scReduce x := Bytes.concat (Bytes.ofNat 32 (x.leValue % L)) x.hi
  scMuladd a b c := Bytes.ofNat 32 ((a.leValue * b.leValue + c.leValue) % L)

theorem leValue_ofNat_of_lt_L {x : Nat} (h : x < L) : (Bytes.ofNat 32 x).leValue = x := by
  rw [Bytes.leValue_ofNat, Nat.mod_eq_of_lt (h.trans (by simpa using L_lt_two_pow_256))]

/-- `zmodEngine` meets the contract. -/
theorem zmodEngine_meets : zmodEngine.Meets 1 where
  order := ZMod.addOrderOf_one L
  scalarmultBase a := by simp [zmodEngine]
  frombytes_tobytes P := by
    simp [zmodEngine, leValue_ofNat_of_lt_L (ZMod.val_lt P), ZMod.val_lt P]
  negXT _ := rfl
  doubleScalarmult _ _ _ := rfl
  scReduce x := by simp [zmodEngine, leValue_ofNat_of_lt_L (Nat.mod_lt _ (NeZero.pos L))]
  scMuladd a b c := by simp [zmodEngine, leValue_ofNat_of_lt_L (Nat.mod_lt _ (NeZero.pos L))]

end Curve25519
