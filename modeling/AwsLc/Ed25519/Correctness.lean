import AwsLc.Ed25519.Sign

/-! # Ed25519: completeness, the range check, non-malleability

    The three properties of the Ed25519 code that no finite set of test
    vectors can establish, over every engine that meets its contract and
    every SHA-512 function:

    * `ED25519_verify_scalar_range`: `ED25519_verify` rejects every signature
      whose `S` is at least `ℓ` without consulting the hash, accepts the
      range of every `S < ℓ`, and its limb loop stays inside `scopy`;
    * `ED25519_verify_sign`: what `ED25519_sign` writes under a key from
      `ED25519_keypair_from_seed` verifies, for every seed and message;
    * `ED25519_verify_unique_S`: for a fixed message, key and `R`, at most
      one `S` is accepted.

    Section 5 drops the key pair: for any 64 bytes passed as the private key,
    `ED25519_verify_sign_iff` says against which public keys the signature
    verifies, which shows what the code relies on when it hashes the key's
    high half as the public key.

    All three go through one spec lemma for verification,
    `ED25519_verify_eq_one_iff`: a signature `R ‖ S` is accepted exactly when
    `S < ℓ`, the key decodes to some `A`, and `[S]B - [k]A` encodes to `R`,
    with `k` the challenge hash of `R ‖ A ‖ M`.
-/

namespace Curve25519

variable {G : Type} (SHA512 : List UInt8 → Bytes 64) (e : Engine G)

/-- The challenge `k = SHA-512(R ‖ A ‖ M) mod ℓ`, as the engine reduces it. -/
def challenge (message : List UInt8) (R public_key : Bytes 32) : Nat :=
  (e.scReduce (SHA512 (R.toList ++ public_key.toList ++ message))).lo.leValue

/-! ## Section 1: The range check inside `ED25519_verify` -/

set_option maxRecDepth 4000 in
theorem and_224_of_lt_32 (x : UInt8) : x.toNat < 32 → x &&& 224 = 0 :=
  UInt8.forall_of_fin (P := fun x => x.toNat < 32 → x &&& 224 = 0) (by decide) x

/-- An `S < ℓ` has the top three bits of its last byte clear. -/
theorem byte_63_and_224 (signature : Bytes 64) (h : signature.hi.leValue < L) :
    signature.byte 63 &&& 224 = 0 := by
  have hsplit := leValue_split_high signature.hi
  have hL : L < 256 ^ 31 * 32 := by decide
  rw [← show signature.hi.byte 31 = signature.byte 63 from Bytes.byte_hi _ _]
  apply and_224_of_lt_32
  by_contra hge
  have : 256 ^ 31 * 32 ≤ 256 ^ 31 * (signature.hi.byte 31).toNat :=
    Nat.mul_le_mul_left _ (by omega)
  omega

/-- The loop as `ED25519_verify` runs it, with the fuel of a `size_t` counter. -/
theorem orderLoop_verify (scopy : Bytes 32) :
    ∃ j ≤ 3, orderLoop scopy UInt64.size 3 =
      some (if scopy.leValue < L then .broke else .rejected, UInt64.ofNat j) :=
  orderLoop_three scopy (UInt64.size - 4)

variable {SHA512 e}

theorem ED25519_verify_of_ge (message : List UInt8) (signature : Bytes 64)
    (public_key : Bytes 32) (h : L ≤ signature.hi.leValue) :
    ED25519_verify SHA512 e message signature public_key = 0 := by
  obtain ⟨j, -, hloop⟩ := orderLoop_verify signature.hi
  simp only [ED25519_verify, hloop, if_neg (Nat.not_lt.mpr h)]
  split_ifs <;> [rfl; split <;> rfl]

theorem ED25519_verify_of_lt (message : List UInt8) (signature : Bytes 64)
    (public_key : Bytes 32) (h : signature.hi.leValue < L) :
    ED25519_verify SHA512 e message signature public_key =
      (e.frombytes public_key).elim 0
        fun A => ED25519_verify_tail SHA512 e message signature public_key (e.negXT A) := by
  obtain ⟨j, -, hloop⟩ := orderLoop_verify signature.hi
  simp only [ED25519_verify, hloop, if_pos h, byte_63_and_224 signature h, ne_eq,
    not_true_eq_false, if_false]
  cases e.frombytes public_key <;> rfl

/-- **The range check** of `ED25519_verify`: an `S ≥ ℓ` is rejected for every
    hash and engine, so before any hashing; an `S < ℓ` passes both the
    top-bits test and the limb loop, leaving the result to the key decoding and
    the final comparison; the loop leaves through `break` or `return` with its
    counter in `{0, 1, 2, 3}`, decrements it only from a nonzero value, and
    never reads outside `scopy` (such a read would make it `none`). -/
theorem ED25519_verify_scalar_range :
    (∀ (G : Type) (SHA512 : List UInt8 → Bytes 64) (e : Engine G) message signature public_key,
      L ≤ signature.hi.leValue → ED25519_verify SHA512 e message signature public_key = 0) ∧
    (∀ (G : Type) (SHA512 : List UInt8 → Bytes 64) (e : Engine G) message signature public_key,
      signature.hi.leValue < L →
        ED25519_verify SHA512 e message signature public_key =
          (e.frombytes public_key).elim 0
            fun A => ED25519_verify_tail SHA512 e message signature public_key (e.negXT A)) ∧
    (∀ scopy : Bytes 32, ∃ j ≤ 3, orderLoop scopy UInt64.size 3 =
      some (if scopy.leValue < L then .broke else .rejected, UInt64.ofNat j)) ∧
    (∀ (scopy : Bytes 32) (i j : UInt64),
      orderLoopBody scopy i = some (.inr j) → i ≠ 0 ∧ j = i - 1) :=
  ⟨fun _ _ _ => ED25519_verify_of_ge, fun _ _ _ => ED25519_verify_of_lt, orderLoop_verify,
    fun _ _ _ => orderLoopBody_next⟩

/-! ## Section 2: The spec of verification -/

section Contract

variable [AddCommGroup G] {B : G} (he : e.Meets B)
include he

/-- **Verification**: `R ‖ S` is accepted exactly when `S < ℓ`, the key
    decodes to `A`, and `[k](-A) + [S]B` encodes to `R`. -/
theorem ED25519_verify_eq_one_iff (message : List UInt8) (signature : Bytes 64)
    (public_key : Bytes 32) :
    ED25519_verify SHA512 e message signature public_key = 1 ↔
      signature.hi.leValue < L ∧ ∃ A, e.frombytes public_key = some A ∧
        e.tobytes (challenge SHA512 e message signature.lo public_key • (-A) +
          signature.hi.leValue • B) = signature.lo := by
  by_cases hS : signature.hi.leValue < L
  · rw [ED25519_verify_of_lt message signature public_key hS]
    cases hA : e.frombytes public_key with
    | none => simp
    | some A =>
      simp only [ED25519_verify_tail, he.negXT, he.doubleScalarmult, CRYPTO_memcmp_eq_zero,
        challenge, SHA512_Final, SHA512_Update, SHA512_Init, List.nil_append, hS, true_and,
        Option.some.injEq, exists_eq_left', ite_eq_left_iff, zero_ne_one, imp_false, not_not,
        Option.elim_some]
  · simp [ED25519_verify_of_ge message signature public_key (Nat.not_lt.mp hS), hS]

/-! ## Section 3: Completeness -/

/-- **Completeness**: every signature `ED25519_sign` makes with a key pair
    from `ED25519_keypair_from_seed` verifies against its public key. -/
theorem ED25519_verify_sign (seed : Bytes 32) (message : List UInt8) :
    ED25519_verify SHA512 e message
      (ED25519_sign SHA512 e message (ED25519_keypair_from_seed SHA512 e seed).2).1
      (ED25519_keypair_from_seed SHA512 e seed).1 = 1 := by
  -- the secret scalar `a`, the nonce `r` and the challenge `k` of the signing run
  set az := clampWith 127 (SHA512 seed.toList)
  set a := az.lo.leValue
  set nonce := e.scReduce (SHA512 (az.hi.toList ++ message))
  set r := nonce.lo.leValue
  set pk := e.tobytes (a • B)
  set rb := e.tobytes (r • B)
  set k := (e.scReduce (SHA512 (rb.toList ++ pk.toList ++ message))).lo.leValue
  have hs : (e.scMuladd (e.scReduce (SHA512 (rb.toList ++ pk.toList ++ message))).lo
      az.lo nonce.lo).leValue = (k * a + r) % L := he.scMuladd _ _ _
  have hsig : (ED25519_sign SHA512 e message (ED25519_keypair_from_seed SHA512 e seed).2).1 =
      Bytes.concat rb (e.scMuladd (e.scReduce (SHA512 (rb.toList ++ pk.toList ++ message))).lo
        az.lo nonce.lo) := by
    simp [ED25519_sign, ED25519_sign_run, ED25519_keypair_from_seed,
      ED25519_keypair_from_seed_run, clampWith_63_eq_127, SHA512_Final, SHA512_Update,
      SHA512_Init, he.scalarmultBase, az, a, nonce, r, pk, rb]
  have hpk : (ED25519_keypair_from_seed SHA512 e seed).1 = pk := by
    simp [ED25519_keypair_from_seed, ED25519_keypair_from_seed_run, he.scalarmultBase, pk, a, az]
  rw [hsig, hpk, ED25519_verify_eq_one_iff he]
  refine ⟨by rw [Bytes.hi_concat, hs]; exact Nat.mod_lt _ (NeZero.pos L),
    a • B, he.frombytes_tobytes _, ?_⟩
  -- `[k](-[a]B) + [(k a + r) mod ℓ]B = [r]B`
  have hpoint : k • (-(a • B)) + ((k * a + r) % L) • B = r • B := by
    rw [he.mod_nsmul, add_nsmul, mul_nsmul', smul_neg]
    abel
  simp only [Bytes.lo_concat, Bytes.hi_concat, hs, challenge]
  rw [hpoint]

end Contract

/-- Completeness at the `ZMod ℓ` engine, an all-zero hash, the zero seed and
    the empty message. -/
theorem ED25519_verify_sign_zmod :
    zmodEngine.Meets 1 ∧
      ED25519_verify (fun _ => Bytes.zeros 64) zmodEngine []
        (ED25519_sign (fun _ => Bytes.zeros 64) zmodEngine []
          (ED25519_keypair_from_seed (fun _ => Bytes.zeros 64) zmodEngine (Bytes.zeros 32)).2).1
        (ED25519_keypair_from_seed (fun _ => Bytes.zeros 64) zmodEngine (Bytes.zeros 32)).1 = 1 :=
  ⟨zmodEngine_meets, ED25519_verify_sign zmodEngine_meets (Bytes.zeros 32) []⟩

/-! ## Section 4: Non-malleability -/

section NonMalleability

variable [AddCommGroup G] {B : G} (he : e.Meets B)
include he

/-- **Non-malleability**: for one message, key and `R`, two different `S`
    are never both accepted. -/
theorem ED25519_verify_unique_S (message : List UInt8) (public_key R S S' : Bytes 32)
    (hS : S ≠ S') :
    ¬ (ED25519_verify SHA512 e message (Bytes.concat R S) public_key = 1 ∧
      ED25519_verify SHA512 e message (Bytes.concat R S') public_key = 1) := by
  rintro ⟨h, h'⟩
  rw [ED25519_verify_eq_one_iff he] at h h'
  obtain ⟨hlt, A, hA, hR⟩ := h
  obtain ⟨hlt', A', hA', hR'⟩ := h'
  rw [hA] at hA'
  cases hA'
  simp only [Bytes.lo_concat, Bytes.hi_concat] at hlt hlt' hR hR'
  have hpts := he.tobytes_injective (hR.trans hR'.symm)
  exact hS (Bytes.leValue_inj (he.nsmul_inj hlt hlt' (add_left_cancel hpts)))

end NonMalleability

/-- Non-malleability at the `ZMod ℓ` engine for `S = 0` and `S' = 1`. -/
theorem ED25519_verify_unique_S_zmod :
    zmodEngine.Meets 1 ∧ Bytes.zeros 32 ≠ Bytes.ofNat 32 1 ∧
      ¬ (ED25519_verify (fun _ => Bytes.zeros 64) zmodEngine []
          (Bytes.concat (Bytes.zeros 32) (Bytes.zeros 32)) (Bytes.zeros 32) = 1 ∧
        ED25519_verify (fun _ => Bytes.zeros 64) zmodEngine []
          (Bytes.concat (Bytes.zeros 32) (Bytes.ofNat 32 1)) (Bytes.zeros 32) = 1) :=
  ⟨zmodEngine_meets, by decide,
    ED25519_verify_unique_S zmodEngine_meets [] (Bytes.zeros 32) (Bytes.zeros 32)
      (Bytes.zeros 32) (Bytes.ofNat 32 1) (by decide)⟩

/-! ## Section 5: Signing with any private key -/

section AnyKey

variable [AddCommGroup G] {B : G} (he : e.Meets B)
include he

/-- The two halves `ED25519_sign` writes, for any private key: `R = [r]B`
    for the nonce `r`, and `S = (k a + r) mod ℓ` for the clamped scalar `a`
    and the challenge `k` over `R`, the key's high half and the message. -/
theorem ED25519_sign_halves (message : List UInt8) (private_key : Bytes 64) :
    let az := clampWith 63 (SHA512 private_key.lo.toList)
    let r := (e.scReduce (SHA512 (az.hi.toList ++ message))).lo.leValue
    let sig := (ED25519_sign SHA512 e message private_key).1
    sig.lo = e.tobytes (r • B) ∧
      sig.hi.leValue =
        (challenge SHA512 e message sig.lo private_key.hi * az.lo.leValue + r) % L := by
  simp [ED25519_sign, ED25519_sign_run, SHA512_Final, SHA512_Update, SHA512_Init,
    he.scalarmultBase, he.scMuladd, challenge]

/-- **Signing with any key**: the signature `ED25519_sign` makes from any 64
    bytes verifies against a public key exactly when that key decodes to a
    point `A` with `[k_v]A = [k_s]([a]B)`. Here `a` is the clamped secret
    scalar of the low half, `k_s` the challenge the signer hashed over the
    high half, and `k_v` the one the verifier hashes over the public key. -/
theorem ED25519_verify_sign_iff (message : List UInt8) (private_key : Bytes 64)
    (public_key : Bytes 32) :
    let sig := (ED25519_sign SHA512 e message private_key).1
    ED25519_verify SHA512 e message sig public_key = 1 ↔
      ∃ A, e.frombytes public_key = some A ∧
        challenge SHA512 e message sig.lo public_key • A =
          challenge SHA512 e message sig.lo private_key.hi •
            (clampWith 63 (SHA512 private_key.lo.toList)).lo.leValue • B := by
  intro sig
  obtain ⟨hR, hS⟩ := ED25519_sign_halves he message private_key
  rw [ED25519_verify_eq_one_iff he, hS]
  simp only [Nat.mod_lt _ (NeZero.pos L), true_and, he.mod_nsmul]
  refine exists_congr fun A => and_congr_right fun _ => ?_
  -- `[k_v](-A) + [k_s a + r]B = [r]B` cancels to `[k_v]A = [k_s]([a]B)`
  rw [hR, he.tobytes_injective.eq_iff, add_nsmul, mul_nsmul', smul_neg, ← add_assoc,
    add_left_eq_self, neg_add_eq_zero]

end AnyKey

/-- Signing with the all-zero private key at the `ZMod ℓ` engine and an
    all-zero hash, checked against the all-zero public key. -/
theorem ED25519_verify_sign_iff_zmod :
    zmodEngine.Meets 1 ∧
      let sig := (ED25519_sign (fun _ => Bytes.zeros 64) zmodEngine [] (Bytes.zeros 64)).1
      (ED25519_verify (fun _ => Bytes.zeros 64) zmodEngine [] sig (Bytes.zeros 32) = 1 ↔
        ∃ A, zmodEngine.frombytes (Bytes.zeros 32) = some A ∧
          challenge (fun _ => Bytes.zeros 64) zmodEngine [] sig.lo (Bytes.zeros 32) • A =
            challenge (fun _ => Bytes.zeros 64) zmodEngine [] sig.lo (Bytes.zeros 64).hi •
              (clampWith 63 ((fun _ => Bytes.zeros 64) (Bytes.zeros 64).lo.toList)).lo.leValue •
                (1 : ZMod L)) :=
  ⟨zmodEngine_meets,
    ED25519_verify_sign_iff zmodEngine_meets [] (Bytes.zeros 64) (Bytes.zeros 32)⟩

end Curve25519
