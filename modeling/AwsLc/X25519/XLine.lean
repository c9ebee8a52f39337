import AwsLc.Prime
import AwsLc.X25519.Dispatch
import Mathlib

/-! # The x-only contract of the s2n-bignum backends

    `curve25519_x25519_byte` and `curve25519_x25519base_byte` (and their
    `_alt` variants) are assembly outside `curve25519.c`. What the dispatch
    code relies on is that each is x-only scalar multiplication: the
    Montgomery ladder reads the scalar bytes little-endian, reads the peer
    value as a field element (bit 255 ignored, the rest taken modulo
    `p = 2^255 - 19`), and writes the canonical encoding of the
    u-coordinate of the product. A field element is the u-coordinate of a
    point of Curve25519 or of a point of its quadratic twist, and the ladder
    computes on whichever group the point lies in; the identity has
    u-coordinate 0, as the ladder's `X/Z` with `Z = 0` gives.

    `XLine` states what this development uses of the two groups: their
    exponents `8ℓ` and `4ℓ'` (the group orders), that u = 0 marks exactly
    the points `P` with `2P = 0`, that every field element is a u-coordinate
    on one of them, and that u = 9 is the base point, of order `ℓ`.
    `X25519Impl.Meets` is the backend contract over an `XLine`. From the
    contract the section at the end derives the output of every s2n-bignum
    call that `X25519` and `X25519_public_from_private` make.
-/

namespace Curve25519

/-! ## Section 1: Field elements and their encodings -/

/-- `p = 2^255 - 19`, the field prime of Curve25519. -/
def p25519 : Nat := 2 ^ 255 - 19

instance : NeZero p25519 := ⟨by decide⟩

theorem p25519_lt_two_pow_255 : p25519 < 2 ^ 255 := by decide

/-- Modelled from the spec: the field element a 32-byte peer value stands
    for, with bit 255 ignored and the rest read modulo `p`. -/
def decodeU (u : Bytes 32) : ZMod p25519 := ((u.leValue % 2 ^ 255 : Nat) : ZMod p25519)

/-- Modelled from the spec: the canonical little-endian encoding of a field
    element, as the ladders write it. -/
def encodeU (x : ZMod p25519) : Bytes 32 := Bytes.ofNat 32 x.val

theorem leValue_encodeU (x : ZMod p25519) : (encodeU x).leValue = x.val := by
  have : x.val < 256 ^ 32 := (ZMod.val_lt x).trans (p25519_lt_two_pow_255.trans (by norm_num))
  rw [encodeU, Bytes.leValue_ofNat, Nat.mod_eq_of_lt this]

/-- A canonical encoding decodes to the element it encodes. -/
@[simp]
theorem decodeU_encodeU (x : ZMod p25519) : decodeU (encodeU x) = x := by
  rw [decodeU, leValue_encodeU,
    Nat.mod_eq_of_lt ((ZMod.val_lt x).trans p25519_lt_two_pow_255), ZMod.natCast_zmod_val]

/-- The encoding is all zeros exactly for the element 0. -/
@[simp]
theorem encodeU_eq_zeros_iff (x : ZMod p25519) : encodeU x = Bytes.zeros 32 ↔ x = 0 := by
  rw [← Bytes.leValue_eq_zero_iff, leValue_encodeU, ZMod.val_eq_zero]

/-! ## Section 2: The x-line of Curve25519 and its twist -/

/-- Modelled from the spec: the points of Curve25519 over `𝔽_p` (`E`) and of
    its quadratic twist (`T`), seen through their u-coordinates. -/
structure XLine (E T : Type) [AddCommGroup E] [AddCommGroup T] where
  /-- The u-coordinate of a point of the curve. -/
  uE : E → ZMod p25519
  /-- The u-coordinate of a point of the twist. -/
  uT : T → ZMod p25519
  /-- The base point, u = 9. -/
  base : E
  u_base : uE base = 9
  order_base : addOrderOf base = L
  /-- The curve has `8ℓ` points. -/
  exponent_E : ∀ P : E, (8 * L) • P = 0
  /-- The twist has `4ℓ'` points. -/
  exponent_T : ∀ Q : T, (4 * Ltwist) • Q = 0
  /-- u = 0 is the identity and the point `(0, 0)` of order 2. -/
  uE_eq_zero : ∀ P, uE P = 0 ↔ 2 • P = 0
  uT_eq_zero : ∀ Q, uT Q = 0 ↔ 2 • Q = 0
  /-- Every field element is a u-coordinate on the curve or on the twist. -/
  covers : ∀ u, (∃ P, uE P = u) ∨ ∃ Q, uT Q = u

section Contract

variable {E T : Type} [AddCommGroup E] [AddCommGroup T]

/-- Modelled from the spec: `f s u` is the x-only ladder by the scalar in
    `s`, on the curve or the twist, whichever a point with u-coordinate
    `decodeU u` lies on. -/
structure XLine.Ladder (M : XLine E T) (f : Bytes 32 → Bytes 32 → Bytes 32) : Prop where
  curve : ∀ s u (P : E), M.uE P = decodeU u → f s u = encodeU (M.uE (s.leValue • P))
  twist : ∀ s u (Q : T), M.uT Q = decodeU u → f s u = encodeU (M.uT (s.leValue • Q))

/-- Modelled from the spec: `g s` is the ladder by the scalar in `s` from
    the base point. -/
def XLine.BaseLadder (M : XLine E T) (g : Bytes 32 → Bytes 32) : Prop :=
  ∀ s, g s = encodeU (M.uE (s.leValue • M.base))

/-- The contract of the four s2n-bignum entry points. The two `_nohw`
    functions are not constrained: the s2n-bignum path never calls them. -/
structure X25519Impl.Meets (impl : X25519Impl) (M : XLine E T) : Prop where
  x25519_byte : M.Ladder impl.curve25519_x25519_byte
  x25519_byte_alt : M.Ladder impl.curve25519_x25519_byte_alt
  x25519base_byte : M.BaseLadder impl.curve25519_x25519base_byte
  x25519base_byte_alt : M.BaseLadder impl.curve25519_x25519base_byte_alt

end Contract

/-! ## Section 3: The dispatch meets the contract -/

/-- The dispatch picks one of its two candidates. -/
theorem s2nSelect_eq_some {α : Type} {cfg : BuildConfig} {caps : CpuCaps} {noAlt alt f : α}
    (h : s2nSelect cfg caps noAlt alt = some f) : f = noAlt ∨ f = alt := by
  unfold s2nSelect at h
  split at h <;> (try split_ifs at h) <;> simp_all

/-- Whichever entry point the dispatch picks, it has every property both
    candidates share. -/
theorem s2nSelect_spec {α : Type} {cfg : BuildConfig} (hcfg : cfg.s2nBignumCapable = true)
    (caps : CpuCaps) {P : α → Prop} {noAlt alt : α} (hnoAlt : P noAlt) (halt : P alt) :
    ∃ f, s2nSelect cfg caps noAlt alt = some f ∧ P f := by
  obtain ⟨f, hf⟩ := Option.isSome_iff_exists.mp (s2nSelect_isSome hcfg caps noAlt alt)
  exact ⟨f, hf, (s2nSelect_eq_some hf).elim (· ▸ hnoAlt) (· ▸ halt)⟩

/-- `X25519`'s flag is 0 exactly when the output is all zeros. -/
theorem X25519_flag (out : Bytes 32) :
    (if CRYPTO_memcmp (Bytes.zeros 32) out ≠ 0 then (1 : Int) else 0) =
      if out = Bytes.zeros 32 then 0 else 1 := by
  simp only [ne_eq, CRYPTO_memcmp_eq_zero, @eq_comm _ (Bytes.zeros 32), ite_not]

section S2n

variable {cfg : BuildConfig} (hcfg : cfg.s2nBignumCapable = true) (caps : CpuCaps)
  {impl : X25519Impl} {E T : Type} [AddCommGroup E] [AddCommGroup T] {M : XLine E T}
  (himpl : impl.Meets M)
include hcfg himpl

/-- On the s2n-bignum path a public value is the u-coordinate of the clamped
    scalar times the base point. -/
theorem X25519_public_from_private_eq (private_key : Bytes 32) :
    X25519_public_from_private cfg caps impl private_key =
      some (encodeU (M.uE ((clampWith 127 private_key).leValue • M.base))) := by
  obtain ⟨g, hsel, hg⟩ := s2nSelect_spec hcfg caps himpl.x25519base_byte himpl.x25519base_byte_alt
  rw [X25519_public_from_private_s2n caps impl hcfg, hsel, Option.map_some', hg]

/-- On the s2n-bignum path `X25519` runs a ladder on the clamped key, and
    flags an all-zero output. -/
theorem X25519_eq_ladder (private_key peer_public_value : Bytes 32) :
    ∃ f, M.Ladder f ∧ X25519 cfg caps impl private_key peer_public_value =
      some (f (clampWith 127 private_key) peer_public_value,
        if f (clampWith 127 private_key) peer_public_value = Bytes.zeros 32 then 0 else 1) := by
  obtain ⟨f, hsel, hf⟩ := s2nSelect_spec hcfg caps himpl.x25519_byte himpl.x25519_byte_alt
  refine ⟨f, hf, ?_⟩
  rw [X25519_s2n caps impl hcfg, hsel, Option.map_some']
  simp only [X25519_flag]

end S2n

end Curve25519
