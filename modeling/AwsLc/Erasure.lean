import AwsLc.Ed25519.Sign
import AwsLc.X25519.Dispatch

/-! # Secret buffers at the return

    The runs of `Ed25519.Sign` and `X25519.Dispatch` return the final
    contents of each function's local buffers, so that what a function
    leaves behind on its stack can be stated. `OPENSSL_cleanse` writes
    zeros, and `curve25519.c` calls it in one place: `ED25519_keypair` wipes
    the seed it drew.

    Nothing wipes the other buffers that hold a private scalar. At the
    return of `ED25519_keypair_from_seed` and of `ED25519_sign`, `az` still
    holds the clamped secret scalar and the nonce prefix; at the return of
    both s2n-bignum dispatch functions, on every path including `abort()`,
    `private_key_internal_demask` still holds the clamped private key. A
    clamped buffer has bit 6 of byte 31 set, so none of them is ever the
    erasure pattern, whatever the key, the message, the hash or the engine.
-/

namespace Curve25519

variable {G : Type} (SHA512 : List UInt8 → Bytes 64) (e : Engine G)

/-- `ED25519_keypair` leaves its seed wiped. -/
theorem ED25519_keypair_run_seed (drawn : Bytes 32) :
    (ED25519_keypair_run SHA512 e drawn).seed = Bytes.zeros 32 := rfl

/-- **Unwiped secrets**: at the return of `ED25519_keypair_from_seed` (also
    inside `ED25519_keypair`) and of `ED25519_sign`, `az` holds the clamped
    digest of the secret seed; at the return of `x25519_s2n_bignum` and
    `x25519_s2n_bignum_public_from_private`, on every path, the demasked key
    holds the clamped private key; none of them is the erasure pattern. -/
theorem secret_buffers_not_wiped :
    (∀ seed : Bytes 32,
      (ED25519_keypair_from_seed_run SHA512 e seed).az = clampWith 127 (SHA512 seed.toList) ∧
        (ED25519_keypair_from_seed_run SHA512 e seed).az ≠ Bytes.zeros 64) ∧
    (∀ drawn : Bytes 32, (ED25519_keypair_run SHA512 e drawn).fromSeed.az ≠ Bytes.zeros 64) ∧
    (∀ (message : List UInt8) (private_key : Bytes 64),
      (ED25519_sign_run SHA512 e message private_key).az =
          clampWith 63 (SHA512 private_key.lo.toList) ∧
        (ED25519_sign_run SHA512 e message private_key).az ≠ Bytes.zeros 64) ∧
    (∀ (cfg : BuildConfig) (caps : CpuCaps) (impl : X25519Impl) (private_key peer : Bytes 32),
      (x25519_s2n_bignum_run cfg caps impl private_key peer).private_key_internal_demask =
          clampWith 127 private_key ∧
        (x25519_s2n_bignum_run cfg caps impl private_key peer).private_key_internal_demask ≠
          Bytes.zeros 32) ∧
    (∀ (cfg : BuildConfig) (caps : CpuCaps) (impl : X25519Impl) (private_key : Bytes 32),
      (x25519_s2n_bignum_public_from_private_run cfg caps impl
          private_key).private_key_internal_demask = clampWith 127 private_key ∧
        (x25519_s2n_bignum_public_from_private_run cfg caps impl
          private_key).private_key_internal_demask ≠ Bytes.zeros 32) :=
  ⟨fun _ => ⟨rfl, clampWith_ne_zeros _ _ (by decide)⟩,
    fun _ => clampWith_ne_zeros _ _ (by decide),
    fun _ _ => ⟨rfl, clampWith_ne_zeros _ _ (by decide)⟩,
    fun _ _ _ _ _ => ⟨rfl, clampWith_ne_zeros _ _ (by decide)⟩,
    fun _ _ _ _ => ⟨rfl, clampWith_ne_zeros _ _ (by decide)⟩⟩

end Curve25519
