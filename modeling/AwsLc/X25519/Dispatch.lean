import AwsLc.Clamp

/-! # X25519 and its backend dispatch

    `curve25519.c` computes X25519 either with the portable `_nohw` code (in
    another file) or, when the build is `CURVE25519_S2N_BIGNUM_CAPABLE`,
    with one of two s2n-bignum assembly variants, chosen at run time from
    the CPU capabilities:

    * on x86_64 the `bmi2`+`adx` variant ("no-alt") when the CPU has both,
      else the variant on standard instructions ("alt");
    * on aarch64 the wide-multiplier variant ("alt") when the CPU is
      classed as having one, else the "no-alt" variant;
    * anything else calls `abort()`.

    The build configuration (`OPENSSL_X86_64`, `OPENSSL_LINUX`,
    `OPENSSL_NO_ASM`, …) and the capability state are explicit inputs; the
    four assembly entry points and the two `_nohw` functions are external,
    given as a record of functions on bytes. `abort()` is `none`.

    `x25519_s2n_bignum` and `x25519_s2n_bignum_public_from_private` are the
    same code at two pairs of entry points: both are written with
    `s2nSelect`, the choice they share. Each run also returns its local
    `private_key_internal_demask`, for `Erasure`.
-/

namespace Curve25519

/-! ## Section 1: Build configuration and capabilities -/

/-- The target architecture: `OPENSSL_X86_64`, `OPENSSL_AARCH64`, or another. -/
inductive Arch
  | x86_64
  | aarch64
  | other
  deriving DecidableEq, Repr

/-- The target system: `OPENSSL_LINUX`, `OPENSSL_APPLE`, or another. -/
inductive Os
  | linux
  | apple
  | other
  deriving DecidableEq, Repr

/-- The preprocessor symbols `curve25519.c` tests. -/
structure BuildConfig where
  arch : Arch
  os : Os
  /-- `MY_ASSEMBLER_IS_TOO_OLD_FOR_AVX` -/
  assemblerTooOldForAvx : Bool
  /-- `OPENSSL_NO_ASM` -/
  noAsm : Bool
  deriving DecidableEq, Repr

/-- `CURVE25519_S2N_BIGNUM_CAPABLE`. -/
def BuildConfig.s2nBignumCapable (cfg : BuildConfig) : Bool :=
  ((cfg.arch == .x86_64 && !cfg.assemblerTooOldForAvx) || cfg.arch == .aarch64) &&
    (cfg.os == .linux || cfg.os == .apple) && !cfg.noAsm

/-- The process-wide CPU capability state, read once and fixed thereafter. -/
structure CpuCaps where
  /-- `CRYPTO_is_BMI2_capable()` -/
  bmi2 : Bool
  /-- `CRYPTO_is_ADX_capable()` -/
  adx : Bool
  /-- `CRYPTO_is_ARMv8_wide_multiplier_capable()` -/
  armv8WideMultiplier : Bool
  deriving DecidableEq, Repr

/-- `x25519_s2n_bignum_capable()`. -/
def x25519_s2n_bignum_capable (cfg : BuildConfig) : Int :=
  if cfg.s2nBignumCapable then 1 else 0

/-- `x25519_s2n_bignum_alt_capable()`. -/
def x25519_s2n_bignum_alt_capable (cfg : BuildConfig) (caps : CpuCaps) : Int :=
  match cfg.arch with
  | .x86_64 => 1
  | .aarch64 => if caps.armv8WideMultiplier then 1 else 0
  | .other => 0

/-- `x25519_s2n_bignum_no_alt_capable()`. -/
def x25519_s2n_bignum_no_alt_capable (cfg : BuildConfig) (caps : CpuCaps) : Int :=
  match cfg.arch with
  | .x86_64 => if caps.bmi2 && caps.adx then 1 else 0
  | .aarch64 => 1
  | .other => 0

/-! ## Section 2: The backend choice -/

/-- The `#if`/`if` chain of both dispatch functions: which of the no-alt and
    alt entry points is called, or `none` for `abort()`. -/
def s2nSelect {α : Type} (cfg : BuildConfig) (caps : CpuCaps) (noAlt alt : α) : Option α :=
  match cfg.arch with
  | .x86_64 =>
    if x25519_s2n_bignum_no_alt_capable cfg caps = 1 then some noAlt
    else if x25519_s2n_bignum_alt_capable cfg caps = 1 then some alt
    else none
  | .aarch64 =>
    if x25519_s2n_bignum_alt_capable cfg caps = 1 then some alt
    else if x25519_s2n_bignum_no_alt_capable cfg caps = 1 then some noAlt
    else none
  | .other => none

/-- **No abort on a capable build**: where s2n-bignum is compiled in, some
    variant is always usable (alt on every x86_64, no-alt on every aarch64). -/
theorem s2nSelect_isSome {α : Type} {cfg : BuildConfig} (h : cfg.s2nBignumCapable = true)
    (caps : CpuCaps) (noAlt alt : α) : (s2nSelect cfg caps noAlt alt).isSome := by
  obtain ⟨arch, os, old, noAsm⟩ := cfg
  cases arch <;> simp_all [BuildConfig.s2nBignumCapable, s2nSelect,
    x25519_s2n_bignum_alt_capable, x25519_s2n_bignum_no_alt_capable]
  all_goals split_ifs <;> simp

/-- **Priority on x86_64**: the `bmi2`+`adx` variant whenever the CPU has both. -/
theorem s2nSelect_x86_64 {α : Type} {cfg : BuildConfig} (h : cfg.arch = .x86_64)
    (caps : CpuCaps) (noAlt alt : α) :
    s2nSelect cfg caps noAlt alt = if caps.bmi2 && caps.adx then some noAlt else some alt := by
  simp [s2nSelect, h, x25519_s2n_bignum_no_alt_capable, x25519_s2n_bignum_alt_capable]

/-- **Priority on aarch64**: the wide-multiplier variant whenever the CPU has one. -/
theorem s2nSelect_aarch64 {α : Type} {cfg : BuildConfig} (h : cfg.arch = .aarch64)
    (caps : CpuCaps) (noAlt alt : α) :
    s2nSelect cfg caps noAlt alt =
      if caps.armv8WideMultiplier then some alt else some noAlt := by
  simp [s2nSelect, h, x25519_s2n_bignum_no_alt_capable, x25519_s2n_bignum_alt_capable]

/-! ## Section 3: The entry points -/

/-- The external implementations X25519 dispatches to. -/
structure X25519Impl where
  curve25519_x25519_byte : Bytes 32 → Bytes 32 → Bytes 32
  curve25519_x25519_byte_alt : Bytes 32 → Bytes 32 → Bytes 32
  curve25519_x25519base_byte : Bytes 32 → Bytes 32
  curve25519_x25519base_byte_alt : Bytes 32 → Bytes 32
  x25519_scalar_mult_generic_nohw : Bytes 32 → Bytes 32 → Bytes 32
  x25519_public_from_private_nohw : Bytes 32 → Bytes 32

/-- A dispatch function's output (`none` on `abort()`) and its final
    `private_key_internal_demask`. -/
structure DemaskRun where
  out : Option (Bytes 32)
  private_key_internal_demask : Bytes 32

variable (cfg : BuildConfig) (caps : CpuCaps) (impl : X25519Impl)

/-- `x25519_s2n_bignum(out_shared_key, private_key, peer_public_value)`. -/
def x25519_s2n_bignum_run (private_key peer_public_value : Bytes 32) : DemaskRun :=
  let private_key_internal_demask := clampWith 127 private_key
  { out := (s2nSelect cfg caps impl.curve25519_x25519_byte impl.curve25519_x25519_byte_alt).map
      fun f => f private_key_internal_demask peer_public_value
    private_key_internal_demask }

/-- `x25519_s2n_bignum_public_from_private(out_public_value, private_key)`. -/
def x25519_s2n_bignum_public_from_private_run (private_key : Bytes 32) : DemaskRun :=
  let private_key_internal_demask := clampWith 127 private_key
  { out := (s2nSelect cfg caps impl.curve25519_x25519base_byte
      impl.curve25519_x25519base_byte_alt).map fun f => f private_key_internal_demask
    private_key_internal_demask }

/-- `X25519_public_from_private(out_public_value, private_key)`. -/
def X25519_public_from_private (private_key : Bytes 32) : Option (Bytes 32) :=
  if x25519_s2n_bignum_capable cfg = 1 then
    (x25519_s2n_bignum_public_from_private_run cfg caps impl private_key).out
  else some (impl.x25519_public_from_private_nohw private_key)

/-- `X25519_keypair(out_public_value, out_private_key)`, with the 32 bytes
    `RAND_bytes` draws: the key is stored anti-masked. -/
def X25519_keypair (drawn : Bytes 32) : Option (Bytes 32 × Bytes 32) :=
  let out_private_key := antimask drawn
  (X25519_public_from_private cfg caps impl out_private_key).map
    fun out_public_value => (out_public_value, out_private_key)

/-- `X25519(out_shared_key, private_key, peer_public_value)`: the shared key
    and the return value, `CRYPTO_memcmp(kZeros, out_shared_key, 32) != 0`. -/
def X25519 (private_key peer_public_value : Bytes 32) : Option (Bytes 32 × Int) :=
  let out := if x25519_s2n_bignum_capable cfg = 1 then
      (x25519_s2n_bignum_run cfg caps impl private_key peer_public_value).out
    else some (impl.x25519_scalar_mult_generic_nohw private_key peer_public_value)
  out.map fun out_shared_key =>
    (out_shared_key, if CRYPTO_memcmp (Bytes.zeros 32) out_shared_key ≠ 0 then 1 else 0)

/-! ## Section 4: On the s2n-bignum path -/

section S2n

variable {cfg} (hcfg : cfg.s2nBignumCapable = true)
include hcfg

theorem X25519_public_from_private_s2n (private_key : Bytes 32) :
    X25519_public_from_private cfg caps impl private_key =
      (s2nSelect cfg caps impl.curve25519_x25519base_byte
        impl.curve25519_x25519base_byte_alt).map fun f => f (clampWith 127 private_key) := by
  simp [X25519_public_from_private, x25519_s2n_bignum_capable, hcfg,
    x25519_s2n_bignum_public_from_private_run]

theorem X25519_s2n (private_key peer_public_value : Bytes 32) :
    X25519 cfg caps impl private_key peer_public_value =
      (s2nSelect cfg caps impl.curve25519_x25519_byte impl.curve25519_x25519_byte_alt).map
        fun f => let out := f (clampWith 127 private_key) peer_public_value
          (out, if CRYPTO_memcmp (Bytes.zeros 32) out ≠ 0 then 1 else 0) := by
  simp only [X25519, x25519_s2n_bignum_capable, hcfg, if_true, x25519_s2n_bignum_run,
    Option.map_map]
  rfl

/-- **Clamped bits do not matter** on the s2n-bignum path, in every capability
    state and for any backend functions: two private keys that differ only in
    bits 0-2 of byte 0 and bits 6-7 of byte 31 give the same shared key, the
    same return value and the same public value. A key from `X25519_keypair`
    is stored anti-masked, so never clamped, yet it behaves as the drawn
    bytes do: its public value is theirs and so is every shared key. -/
theorem X25519_clamp_noninterference :
    (∀ k k' : Bytes 32, AgreeOffClampBits k k' →
      (∀ u, X25519 cfg caps impl k u = X25519 cfg caps impl k' u) ∧
        X25519_public_from_private cfg caps impl k =
          X25519_public_from_private cfg caps impl k') ∧
    (∀ r : Bytes 32,
      X25519_keypair cfg caps impl r =
          (X25519_public_from_private cfg caps impl r).map (fun pub => (pub, antimask r)) ∧
        clampWith 127 (antimask r) ≠ antimask r ∧
        ∀ u, X25519 cfg caps impl (antimask r) u = X25519 cfg caps impl r u) := by
  have agree : ∀ k k' : Bytes 32, AgreeOffClampBits k k' →
      (∀ u, X25519 cfg caps impl k u = X25519 cfg caps impl k' u) ∧
        X25519_public_from_private cfg caps impl k =
          X25519_public_from_private cfg caps impl k' := by
    intro k k' hk
    refine ⟨fun u => ?_, ?_⟩
    · rw [X25519_s2n caps impl hcfg, X25519_s2n caps impl hcfg, clampWith_eq_of_agree hk]
    · rw [X25519_public_from_private_s2n caps impl hcfg,
        X25519_public_from_private_s2n caps impl hcfg, clampWith_eq_of_agree hk]
  refine ⟨agree, fun r => ⟨?_, clampWith_antimask_ne r,
    (agree _ _ (agreeOffClampBits_antimask r)).1⟩⟩
  rw [X25519_keypair, (agree _ _ (agreeOffClampBits_antimask r)).2]

end S2n

/-- A build with s2n-bignum: x86_64 Linux with assembly. -/
def x86_64Linux : BuildConfig := ⟨.x86_64, .linux, false, false⟩

/-- The anti-masked zero key behaves as the zero key on x86_64 Linux, on a CPU
    with `bmi2` and `adx`, for backends that return their scalar. -/
theorem X25519_clamp_noninterference_x86_64 :
    x86_64Linux.s2nBignumCapable = true ∧
      ∀ u, X25519 x86_64Linux ⟨true, true, false⟩
          ⟨fun s _ => s, fun s _ => s, id, id, fun s _ => s, id⟩ (antimask (Bytes.zeros 32)) u =
        X25519 x86_64Linux ⟨true, true, false⟩
          ⟨fun s _ => s, fun s _ => s, id, id, fun s _ => s, id⟩ (Bytes.zeros 32) u :=
  ⟨rfl, ((X25519_clamp_noninterference _ _ (rfl : x86_64Linux.s2nBignumCapable = true)).2
    (Bytes.zeros 32)).2.2⟩

end Curve25519
