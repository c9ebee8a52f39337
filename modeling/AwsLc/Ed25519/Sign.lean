import AwsLc.Ed25519.Engine
import AwsLc.Clamp

/-! # Ed25519 key generation, signing and verification

    The four Ed25519 entry points of `curve25519.c`, statement by statement,
    over an engine `e : Engine G` and a SHA-512 function `SHA512`. SHA-512 is
    an arbitrary function from the hashed bytes to a 64-byte digest; the
    incremental API is modelled by its meaning, a context holding the bytes
    absorbed since `SHA512_Init`, so that `SHA512_Final` of a context is
    `SHA512` of its bytes. `RAND_bytes` is the 32 bytes it draws, passed in.

    Each function is first written as a run that returns, besides its
    outputs, the final contents of its local buffers (`az`, `nonce`, the
    hash context, `seed`): the erasure results of `Ed25519.Erasure` are
    about those. The C functions themselves are projections of the runs.
-/

namespace Curve25519

variable {G : Type} (SHA512 : List UInt8 → Bytes 64) (e : Engine G)

/-! ## Section 1: The SHA-512 interface -/

/-- A `SHA512_CTX`: the bytes absorbed since the last `SHA512_Init`. -/
abbrev SHA512_CTX := List UInt8

/-- `SHA512_Init(&ctx)`. -/
def SHA512_Init : SHA512_CTX := []

/-- `SHA512_Update(&ctx, data, len)`. -/
def SHA512_Update (ctx : SHA512_CTX) (data : List UInt8) : SHA512_CTX := ctx ++ data

/-- `SHA512_Final(out, &ctx)`. -/
def SHA512_Final (ctx : SHA512_CTX) : Bytes 64 := SHA512 ctx

/-! ## Section 2: Key generation -/

/-- `ED25519_keypair_from_seed`: its outputs and the final `az`. -/
structure KeypairFromSeedRun where
  out_public_key : Bytes 32
  out_private_key : Bytes 64
  az : Bytes 64

/-- `ED25519_keypair_from_seed(out_public_key, out_private_key, seed)`. -/
def ED25519_keypair_from_seed_run (seed : Bytes 32) : KeypairFromSeedRun :=
  let az := clampWith 127 (SHA512 seed.toList)
  let A := e.scalarmultBase az.lo
  let out_public_key := e.tobytes A
  { out_public_key
    out_private_key := Bytes.concat seed out_public_key
    az }

/-- The outputs of `ED25519_keypair_from_seed`: `(public key, private key)`. -/
def ED25519_keypair_from_seed (seed : Bytes 32) : Bytes 32 × Bytes 64 :=
  let r := ED25519_keypair_from_seed_run SHA512 e seed
  (r.out_public_key, r.out_private_key)

/-- `ED25519_keypair`: its outputs, the final `seed`, and the callee's run. -/
structure KeypairRun where
  out_public_key : Bytes 32
  out_private_key : Bytes 64
  seed : Bytes 32
  fromSeed : KeypairFromSeedRun

/-- `ED25519_keypair(out_public_key, out_private_key)`, with the 32 bytes
    `RAND_bytes` draws; the seed is wiped by `OPENSSL_cleanse` at the end. -/
def ED25519_keypair_run (drawn : Bytes 32) : KeypairRun :=
  let r := ED25519_keypair_from_seed_run SHA512 e drawn
  { out_public_key := r.out_public_key
    out_private_key := r.out_private_key
    seed := Bytes.zeros 32
    fromSeed := r }

/-! ## Section 3: Signing -/

/-- `ED25519_sign`: its output and its local buffers at the return. -/
structure SignRun where
  out_sig : Bytes 64
  az : Bytes 64
  nonce : Bytes 64
  hram : Bytes 64
  hash_ctx : SHA512_CTX

/-- `ED25519_sign(out_sig, message, message_len, private_key)`. -/
def ED25519_sign_run (message : List UInt8) (private_key : Bytes 64) : SignRun :=
  let az := clampWith 63 (SHA512 private_key.lo.toList)
  let hash_ctx := SHA512_Update (SHA512_Update SHA512_Init az.hi.toList) message
  let nonce := e.scReduce (SHA512_Final SHA512 hash_ctx)
  let R := e.scalarmultBase nonce.lo
  let r := e.tobytes R
  let hash_ctx :=
    SHA512_Update (SHA512_Update (SHA512_Update SHA512_Init r.toList) private_key.hi.toList)
      message
  let hram := e.scReduce (SHA512_Final SHA512 hash_ctx)
  let s := e.scMuladd hram.lo az.lo nonce.lo
  { out_sig := Bytes.concat r s, az, nonce, hram, hash_ctx }

/-- `ED25519_sign`: the signature written to `out_sig`, and the return value `1`. -/
def ED25519_sign (message : List UInt8) (private_key : Bytes 64) : Bytes 64 × Int :=
  ((ED25519_sign_run SHA512 e message private_key).out_sig, 1)

/-! ## Section 4: Verification -/

/-- The part of `ED25519_verify` after the range check: the challenge hash,
    the double scalar multiplication, and the comparison with `R`. -/
def ED25519_verify_tail (message : List UInt8) (signature : Bytes 64) (public_key : Bytes 32)
    (A : G) : Int :=
  let hash_ctx :=
    SHA512_Update (SHA512_Update (SHA512_Update SHA512_Init signature.lo.toList)
      public_key.toList) message
  let h := e.scReduce (SHA512_Final SHA512 hash_ctx)
  let R := e.doubleScalarmult h.lo A signature.hi
  let rcheck := e.tobytes R
  if CRYPTO_memcmp rcheck signature.lo = 0 then 1 else 0

/-- `ED25519_verify(message, message_len, signature, public_key)`. The range
    loop runs with the fuel of a `size_t` counter; `orderLoop_three` shows it
    always leaves within four passes, so its `none` case is never taken. -/
def ED25519_verify (message : List UInt8) (signature : Bytes 64) (public_key : Bytes 32) :
    Int :=
  if signature.byte 63 &&& 224 ≠ 0 then 0 else
  match e.frombytes public_key with
  | none => 0
  | some A =>
    let A := e.negXT A
    match orderLoop signature.hi UInt64.size 3 with
    | some (.broke, _) => ED25519_verify_tail SHA512 e message signature public_key A
    | _ => 0

end Curve25519
