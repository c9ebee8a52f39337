import AwsLc.X25519.CyclicLine

/-! # Key agreement, the all-zero check and the base point

    On the s2n-bignum path, with backends that meet the x-only contract
    (`X25519Impl.Meets`), these results follow from the clamping alone.

    * Diffie-Hellman: `X25519(a, X25519_public_from_private(b))` and
      `X25519(b, X25519_public_from_private(a))` write the same bytes and
      both return 1, whichever entry points the dispatch picks.
    * The return value of `X25519` is 0, which is exactly when it writes 32
      zero bytes, iff the peer value is the u-coordinate of a point, on the
      curve or on the twist, whose order divides 8.
    * The fixed-base entry points agree with the ladder: `X25519` against
      the base point `u = 9` writes the public value of the same key and
      returns 1.
    * Two parties that draw their keys with `X25519_keypair`, on machines
      with any capabilities, exchange public values and compute the same
      shared key, and both calls return 1.

    The first two and the last rest on one arithmetic fact: a clamped scalar `c` (a multiple of 8
    in `[2^254, 2^255)`) is not a multiple of an odd prime `q` with
    `8q > 2^255`, which holds for `ℓ` and for the twist's factor `ℓ'`. So
    `2c` kills a point exactly when 8 does, in a group of exponent `8ℓ` or
    `4ℓ'`.
-/

namespace Curve25519

/-! ## Section 1: Clamped scalars and large primes -/

section LargePrime

variable {q : Nat} (hq : q.Prime) (hq2 : q ≠ 2) (hbig : 2 ^ 255 ≤ 8 * q)
include hq hq2 hbig

/-- A large odd prime divides no clamped scalar. -/
theorem not_dvd_clamped (k : Bytes 32) : ¬ q ∣ (clampWith 127 k).leValue := by
  obtain ⟨h8, hlo, hhi⟩ := clampWith_leValue k
  have hq8 : ¬ q ∣ 8 := fun h =>
    hq2 ((Nat.prime_dvd_prime_iff_eq hq Nat.prime_two).mp (hq.dvd_of_dvd_pow (n := 3) h))
  intro hdvd
  have := Nat.le_of_dvd (by omega)
    (((Nat.Prime.coprime_iff_not_dvd hq).mpr hq8).mul_dvd_of_dvd_of_dvd hdvd
      (Nat.dvd_of_mod_eq_zero h8))
  omega

theorem not_dvd_two_mul_clamped (k : Bytes 32) : ¬ q ∣ 2 * (clampWith 127 k).leValue := fun h =>
  ((Nat.Prime.dvd_mul hq).mp h).elim
    (fun h2 => hq2 ((Nat.prime_dvd_prime_iff_eq hq Nat.prime_two).mp h2))
    (not_dvd_clamped hq hq2 hbig k)

/-- In a group of exponent `n q` with `n ∣ 8`, twice a clamped scalar kills
    a point exactly when 8 does. -/
theorem two_clamped_nsmul_eq_zero_iff {G : Type} [AddCommGroup G] {n : Nat} (hn : n ∣ 8)
    (hexp : ∀ x : G, (n * q) • x = 0) (k : Bytes 32) (P : G) :
    2 • (clampWith 127 k).leValue • P = 0 ↔ addOrderOf P ∣ 8 := by
  rw [smul_smul, ← addOrderOf_dvd_iff_nsmul_eq_zero]
  constructor
  · intro h
    have hcop : (addOrderOf P).Coprime q := Nat.Coprime.coprime_dvd_left h
      ((Nat.Prime.coprime_iff_not_dvd hq).mpr (not_dvd_two_mul_clamped hq hq2 hbig k)).symm
    exact (hcop.dvd_of_dvd_mul_right (addOrderOf_dvd_of_nsmul_eq_zero (hexp P))).trans hn
  · intro h
    exact h.trans ((Nat.dvd_of_mod_eq_zero (clampWith_leValue k).1).mul_left 2)

end LargePrime

theorem L_large : L ≠ 2 ∧ 2 ^ 255 ≤ 8 * L := by decide

theorem Ltwist_large : Ltwist ≠ 2 ∧ 2 ^ 255 ≤ 8 * Ltwist := by decide

/-! ## Section 2: The s2n-bignum path -/

section S2n

variable {cfg : BuildConfig} (hcfg : cfg.s2nBignumCapable = true) (caps : CpuCaps)
  {impl : X25519Impl} {E T : Type} [AddCommGroup E] [AddCommGroup T] {M : XLine E T}
  (himpl : impl.Meets M)
include hcfg himpl

/-- `X25519(a, X25519_public_from_private(b))` is the u-coordinate of the
    product of both clamped scalars times the base point, and returns 1. -/
theorem X25519_public_from_private_bind (a b : Bytes 32) :
    ((X25519_public_from_private cfg caps impl b).bind fun pb => X25519 cfg caps impl a pb) =
      some (encodeU (M.uE (((clampWith 127 a).leValue * (clampWith 127 b).leValue) • M.base)),
        1) := by
  rw [X25519_public_from_private_eq hcfg caps himpl, Option.some_bind]
  obtain ⟨f, hf, heq⟩ := X25519_eq_ladder hcfg caps himpl a
    (encodeU (M.uE ((clampWith 127 b).leValue • M.base)))
  have hL := L_large
  have hne : ¬ 2 • ((clampWith 127 a).leValue * (clampWith 127 b).leValue) • M.base = 0 := by
    rw [smul_smul, ← addOrderOf_dvd_iff_nsmul_eq_zero, M.order_base, ← mul_assoc]
    exact fun h => ((Nat.Prime.dvd_mul L_prime).mp h).elim
      (not_dvd_two_mul_clamped L_prime hL.1 hL.2 a) (not_dvd_clamped L_prime hL.1 hL.2 b)
  rw [heq, hf.curve _ _ _ (decodeU_encodeU _).symm, smul_smul]
  simp only [encodeU_eq_zeros_iff, M.uE_eq_zero, hne, if_false]

/-- **Diffie-Hellman** on the s2n-bignum path, in every capability state:
    both parties write the same shared key and both calls return 1. -/
theorem X25519_diffie_hellman (a b : Bytes 32) :
    ∃ shared : Bytes 32,
      ((X25519_public_from_private cfg caps impl b).bind fun pb => X25519 cfg caps impl a pb) =
          some (shared, 1) ∧
        ((X25519_public_from_private cfg caps impl a).bind fun pa => X25519 cfg caps impl b pa) =
          some (shared, 1) :=
  ⟨_, X25519_public_from_private_bind hcfg caps himpl a b, by
    rw [X25519_public_from_private_bind hcfg caps himpl b a, mul_comm]⟩

end S2n

/-- Key agreement in the model `cyclicXLine`, on x86_64 Linux, for the zero keys. -/
theorem X25519_diffie_hellman_cyclic :
    x86_64Linux.s2nBignumCapable = true ∧ cyclicImpl.Meets cyclicXLine ∧
      ∃ shared : Bytes 32,
        ((X25519_public_from_private x86_64Linux ⟨true, true, false⟩ cyclicImpl
            (Bytes.zeros 32)).bind fun pb =>
            X25519 x86_64Linux ⟨true, true, false⟩ cyclicImpl (Bytes.zeros 32) pb) =
          some (shared, 1) ∧
        ((X25519_public_from_private x86_64Linux ⟨true, true, false⟩ cyclicImpl
            (Bytes.zeros 32)).bind fun pa =>
            X25519 x86_64Linux ⟨true, true, false⟩ cyclicImpl (Bytes.zeros 32) pa) =
          some (shared, 1) :=
  ⟨rfl, cyclicImpl_meets, X25519_diffie_hellman (rfl : x86_64Linux.s2nBignumCapable = true) _
    cyclicImpl_meets _ _⟩

section S2n

variable {cfg : BuildConfig} (hcfg : cfg.s2nBignumCapable = true) (caps : CpuCaps)
  {impl : X25519Impl} {E T : Type} [AddCommGroup E] [AddCommGroup T] {M : XLine E T}
  (himpl : impl.Meets M)
include hcfg himpl

/-- **Small-order check** on the s2n-bignum path: `X25519` never aborts; it
    returns 0 exactly when it writes 32 zero bytes, and that happens exactly
    when the peer value is the u-coordinate of a point whose order divides 8,
    on the curve or on the twist. -/
theorem X25519_zero_iff_small_order (k u : Bytes 32) :
    ∃ out flag, X25519 cfg caps impl k u = some (out, flag) ∧
      (flag = 0 ↔ out = Bytes.zeros 32) ∧
      (flag = 0 ↔ (∃ P : E, M.uE P = decodeU u ∧ addOrderOf P ∣ 8) ∨
        ∃ Q : T, M.uT Q = decodeU u ∧ addOrderOf Q ∣ 8) := by
  obtain ⟨f, hf, heq⟩ := X25519_eq_ladder hcfg caps himpl k u
  have hflag : (if f (clampWith 127 k) u = Bytes.zeros 32 then (0 : Int) else 1) = 0 ↔
      f (clampWith 127 k) u = Bytes.zeros 32 := by
    split_ifs with h <;> simp [h]
  have hL := L_large
  have hLt := Ltwist_large
  have hE : ∀ P, M.uE P = decodeU u →
      (f (clampWith 127 k) u = Bytes.zeros 32 ↔ addOrderOf P ∣ 8) :=
    fun P hP => by
      rw [hf.curve _ _ P hP, encodeU_eq_zeros_iff, M.uE_eq_zero,
        two_clamped_nsmul_eq_zero_iff L_prime hL.1 hL.2 dvd_rfl M.exponent_E]
  have hT : ∀ Q, M.uT Q = decodeU u →
      (f (clampWith 127 k) u = Bytes.zeros 32 ↔ addOrderOf Q ∣ 8) :=
    fun Q hQ => by
      rw [hf.twist _ _ Q hQ, encodeU_eq_zeros_iff, M.uT_eq_zero,
        two_clamped_nsmul_eq_zero_iff Ltwist_prime hLt.1 hLt.2 (by norm_num) M.exponent_T]
  refine ⟨_, _, heq, hflag, hflag.trans ⟨fun h => ?_, ?_⟩⟩
  · rcases M.covers (decodeU u) with ⟨P, hP⟩ | ⟨Q, hQ⟩
    · exact .inl ⟨P, hP, (hE P hP).mp h⟩
    · exact .inr ⟨Q, hQ, (hT Q hQ).mp h⟩
  · rintro (⟨P, hP, h⟩ | ⟨Q, hQ, h⟩)
    · exact (hE P hP).mpr h
    · exact (hT Q hQ).mpr h

end S2n

/-- The all-zero peer value is flagged in the model `cyclicXLine`, on x86_64
    Linux, for the zero key. -/
theorem X25519_zero_iff_small_order_cyclic :
    x86_64Linux.s2nBignumCapable = true ∧ cyclicImpl.Meets cyclicXLine ∧
      ∃ out flag, X25519 x86_64Linux ⟨true, true, false⟩ cyclicImpl (Bytes.zeros 32)
          (Bytes.zeros 32) = some (out, flag) ∧
        (flag = 0 ↔ out = Bytes.zeros 32) ∧
        (flag = 0 ↔ (∃ P, cyclicXLine.uE P = decodeU (Bytes.zeros 32) ∧ addOrderOf P ∣ 8) ∨
          ∃ Q, cyclicXLine.uT Q = decodeU (Bytes.zeros 32) ∧ addOrderOf Q ∣ 8) :=
  ⟨rfl, cyclicImpl_meets, X25519_zero_iff_small_order (rfl : x86_64Linux.s2nBignumCapable = true) _
    cyclicImpl_meets _ _⟩

/-! ## Section 3: The base point -/

/-- A clamped multiple of the base point is not killed by 2: the base point
    has prime order `ℓ`, which divides no clamped scalar. -/
theorem two_nsmul_clamped_base_ne_zero {E T : Type} [AddCommGroup E] [AddCommGroup T]
    (M : XLine E T) (k : Bytes 32) : ¬ 2 • (clampWith 127 k).leValue • M.base = 0 := by
  have hL := L_large
  rw [smul_smul, ← addOrderOf_dvd_iff_nsmul_eq_zero, M.order_base]
  exact not_dvd_two_mul_clamped L_prime hL.1 hL.2 k

section S2n

variable {cfg : BuildConfig} (hcfg : cfg.s2nBignumCapable = true) (caps : CpuCaps)
  {impl : X25519Impl} {E T : Type} [AddCommGroup E] [AddCommGroup T] {M : XLine E T}
  (himpl : impl.Meets M)
include hcfg himpl

/-- **The fixed-base entry points agree with the ladder** on the s2n-bignum
    path: `X25519` with the base point `u = 9` as the peer value writes the
    public value `X25519_public_from_private` writes for the same key, and
    returns 1. -/
theorem X25519_base_point (k : Bytes 32) :
    X25519 cfg caps impl k nineBytes =
      (X25519_public_from_private cfg caps impl k).map fun pub => (pub, 1) := by
  obtain ⟨f, hf, heq⟩ := X25519_eq_ladder hcfg caps himpl k nineBytes
  have hnine : M.uE M.base = decodeU nineBytes := M.u_base.trans decodeU_nineBytes.symm
  rw [heq, X25519_public_from_private_eq hcfg caps himpl, Option.map_some', hf.curve _ _ _ hnine]
  simp only [encodeU_eq_zeros_iff, M.uE_eq_zero, two_nsmul_clamped_base_ne_zero M k, if_false]

end S2n

/-- The zero key against the base point, in the model `cyclicXLine`. -/
theorem X25519_base_point_cyclic :
    x86_64Linux.s2nBignumCapable = true ∧ cyclicImpl.Meets cyclicXLine ∧
      X25519 x86_64Linux ⟨true, true, false⟩ cyclicImpl (Bytes.zeros 32) nineBytes =
        (X25519_public_from_private x86_64Linux ⟨true, true, false⟩ cyclicImpl
          (Bytes.zeros 32)).map fun pub => (pub, 1) :=
  ⟨rfl, cyclicImpl_meets, X25519_base_point (rfl : x86_64Linux.s2nBignumCapable = true) _
    cyclicImpl_meets _⟩

/-! ## Section 4: Two parties -/

section S2n

variable {cfg : BuildConfig} (hcfg : cfg.s2nBignumCapable = true)
  {impl : X25519Impl} {E T : Type} [AddCommGroup E] [AddCommGroup T] {M : XLine E T}
  (himpl : impl.Meets M)
include hcfg himpl

/-- `X25519_keypair` stores the anti-masked draw and its public value, in
    every capability state. -/
theorem X25519_keypair_eq (caps : CpuCaps) (drawn : Bytes 32) :
    X25519_keypair cfg caps impl drawn =
      some (encodeU (M.uE ((clampWith 127 (antimask drawn)).leValue • M.base)), antimask drawn) := by
  rw [X25519_keypair, X25519_public_from_private_eq hcfg caps himpl, Option.map_some']

/-- **Key agreement between two parties** on the s2n-bignum path: parties
    that draw their keys with `X25519_keypair`, on machines with any two
    capability states, each run `X25519` on their private key and the
    other's public value; both write the same shared key and return 1. -/
theorem X25519_keypair_agreement (capsA capsB : CpuCaps) (drawnA drawnB : Bytes 32) :
    ∃ pubA privA pubB privB shared,
      X25519_keypair cfg capsA impl drawnA = some (pubA, privA) ∧
      X25519_keypair cfg capsB impl drawnB = some (pubB, privB) ∧
      X25519 cfg capsA impl privA pubB = some (shared, 1) ∧
      X25519 cfg capsB impl privB pubA = some (shared, 1) := by
  have hA := X25519_public_from_private_bind hcfg capsA himpl (antimask drawnA) (antimask drawnB)
  have hB := X25519_public_from_private_bind hcfg capsB himpl (antimask drawnB) (antimask drawnA)
  rw [X25519_public_from_private_eq hcfg capsA himpl, Option.some_bind] at hA
  rw [X25519_public_from_private_eq hcfg capsB himpl, Option.some_bind, mul_comm] at hB
  exact ⟨_, _, _, _, _, X25519_keypair_eq hcfg himpl capsA drawnA,
    X25519_keypair_eq hcfg himpl capsB drawnB, hA, hB⟩

end S2n

/-- Two parties with the zero draw, one on a CPU with `bmi2` and `adx` and
    one without, in the model `cyclicXLine`. -/
theorem X25519_keypair_agreement_cyclic :
    x86_64Linux.s2nBignumCapable = true ∧ cyclicImpl.Meets cyclicXLine ∧
      ∃ pubA privA pubB privB shared,
        X25519_keypair x86_64Linux ⟨true, true, false⟩ cyclicImpl (Bytes.zeros 32) =
            some (pubA, privA) ∧
          X25519_keypair x86_64Linux ⟨false, false, false⟩ cyclicImpl (Bytes.zeros 32) =
            some (pubB, privB) ∧
          X25519 x86_64Linux ⟨true, true, false⟩ cyclicImpl privA pubB = some (shared, 1) ∧
          X25519 x86_64Linux ⟨false, false, false⟩ cyclicImpl privB pubA = some (shared, 1) :=
  ⟨rfl, cyclicImpl_meets, X25519_keypair_agreement (rfl : x86_64Linux.s2nBignumCapable = true)
    cyclicImpl_meets _ _ _ _⟩

end Curve25519
