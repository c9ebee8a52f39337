import AwsLc.Bytes
import Mathlib.Algebra.Order.Group.Nat

/-! # Clamping a scalar

    Every use of a private scalar in `curve25519.c` first clamps it in place,
    with three statements on bytes 0 and 31 of a buffer:

        az[0] &= 248;  az[31] &= 127;  az[31] |= 64;

    `ED25519_keypair_from_seed`, `x25519_s2n_bignum` and
    `x25519_s2n_bignum_public_from_private` write `127`; `ED25519_sign`
    writes `63`. `clampWith` is the three statements with that one constant as
    a parameter, and each caller uses it at its own constant.

    The facts below are all that the rest of the development needs about
    clamping: the two constants give the same buffer (so signing and key
    generation agree on the secret scalar); a clamped 32-byte scalar is a
    multiple of 8 in `[2^254, 2^255)`; clamping forgets exactly bits 0-2 of
    byte 0 and bits 6-7 of byte 31; and it undoes the anti-masking that
    `X25519_keypair` applies to a fresh key.
-/

namespace Curve25519

variable {n : Nat}

/-- `buf[0] &= 248; buf[31] &= mask31; buf[31] |= 64;` -/
def clampWith (mask31 : UInt8) (buf : Bytes n) : Bytes n :=
  ((buf.update 0 (· &&& 248)).update 31 (· &&& mask31)).update 31 (· ||| 64)

/-- The anti-masking of `X25519_keypair`:
    `out_private_key[0] |= ~248; out_private_key[31] &= ~64; out_private_key[31] |= ~127;`
    (the complements are of `int`, truncated to a byte by the assignment). -/
def antimask (buf : Bytes n) : Bytes n :=
  ((buf.update 0 (· ||| ~~~248)).update 31 (· &&& ~~~64)).update 31 (· ||| ~~~127)

/-- `k` and `k'` agree except in the five bits that clamping overwrites:
    bits 0-2 of byte 0 and bits 6-7 of byte 31. -/
def AgreeOffClampBits (k k' : Bytes 32) : Prop :=
  (∀ i, i ≠ 0 → i ≠ 31 → k.byte i = k'.byte i) ∧
    k.byte 0 &&& 248 = k'.byte 0 &&& 248 ∧ k.byte 31 &&& 63 = k'.byte 31 &&& 63

/-! ## Section 1: The bytes of a clamped buffer -/

theorem byte_clampWith_zero (mask31 : UInt8) (buf : Bytes n) (h : 31 < n) :
    (clampWith mask31 buf).byte 0 = buf.byte 0 &&& 248 := by
  simp only [clampWith, Bytes.byte_update_ne _ (by decide : (0 : Nat) ≠ 31),
    Bytes.byte_update_eq _ (by omega : 0 < n)]

theorem byte_clampWith_31 (mask31 : UInt8) (buf : Bytes n) (h : 31 < n) :
    (clampWith mask31 buf).byte 31 = (buf.byte 31 &&& mask31) ||| 64 := by
  simp only [clampWith, Bytes.byte_update_eq _ h, Bytes.byte_update_ne _ (by decide : (31 : Nat) ≠ 0)]

theorem byte_clampWith_other (mask31 : UInt8) (buf : Bytes n) {i : Nat} (h0 : i ≠ 0)
    (h31 : i ≠ 31) : (clampWith mask31 buf).byte i = buf.byte i := by
  simp only [clampWith, Bytes.byte_update_ne _ h0, Bytes.byte_update_ne _ h31]

theorem byte_antimask_other (buf : Bytes n) {i : Nat} (h0 : i ≠ 0) (h31 : i ≠ 31) :
    (antimask buf).byte i = buf.byte i := by
  simp only [antimask, Bytes.byte_update_ne _ h0, Bytes.byte_update_ne _ h31]

/-! ## Section 2: The byte masks -/

set_option maxRecDepth 4000 in
/-- Masking byte 31 with `63` or with `127` before setting bit 6 gives the same byte. -/
theorem mask63_eq_mask127 (x : UInt8) : (x &&& 63) ||| 64 = (x &&& 127) ||| 64 :=
  UInt8.forall_of_fin (P := fun x => (x &&& 63) ||| 64 = (x &&& 127) ||| 64) (by decide) x

set_option maxRecDepth 4000 in
theorem clamped_low_byte_mod_eight (x : UInt8) : (x &&& 248).toNat % 8 = 0 :=
  UInt8.forall_of_fin (P := fun x => (x &&& 248).toNat % 8 = 0) (by decide) x

set_option maxRecDepth 4000 in
theorem clamped_high_byte_range (x : UInt8) :
    64 ≤ ((x &&& 127) ||| 64).toNat ∧ ((x &&& 127) ||| 64).toNat < 128 :=
  UInt8.forall_of_fin (P := fun x => 64 ≤ ((x &&& 127) ||| 64).toNat ∧
    ((x &&& 127) ||| 64).toNat < 128) (by decide) x

set_option maxRecDepth 4000 in
theorem antimask_low_byte (x : UInt8) :
    (x ||| ~~~248) &&& 248 = x &&& 248 ∧ (x ||| ~~~248) &&& 248 ≠ x ||| ~~~248 :=
  UInt8.forall_of_fin (P := fun x => (x ||| ~~~248) &&& 248 = x &&& 248 ∧
    (x ||| ~~~248) &&& 248 ≠ x ||| ~~~248) (by decide) x

set_option maxRecDepth 4000 in
theorem antimask_high_byte (x : UInt8) : ((x &&& ~~~64) ||| ~~~127) &&& 63 = x &&& 63 :=
  UInt8.forall_of_fin (P := fun x => ((x &&& ~~~64) ||| ~~~127) &&& 63 = x &&& 63) (by decide) x

set_option maxRecDepth 4000 in
theorem bit6_ne_zero (x : UInt8) : x ||| 64 ≠ 0 :=
  UInt8.forall_of_fin (P := fun x => x ||| 64 ≠ 0) (by decide) x

/-! ## Section 3: Clamping as a function of the buffer -/

/-- **The two clamps agree**: `ED25519_sign`'s `&= 63` and
    `ED25519_keypair_from_seed`'s `&= 127` clamp every buffer alike. -/
theorem clampWith_63_eq_127 (buf : Bytes n) : clampWith 63 buf = clampWith 127 buf := by
  apply Mathlib.Vector.toList_injective
  simp only [clampWith, Bytes.toList_update, List.modify_modify_eq]
  congr 1
  funext x
  exact mask63_eq_mask127 x

/-- Clamping depends only on the bits it keeps. -/
theorem clampWith_eq_of_agree {k k' : Bytes 32} (h : AgreeOffClampBits k k') :
    clampWith 127 k = clampWith 127 k' := by
  obtain ⟨hother, h0, h31⟩ := h
  apply Bytes.ext_byte
  intro i hi
  by_cases hi0 : i = 0
  · subst hi0
    rw [byte_clampWith_zero _ _ (by decide), byte_clampWith_zero _ _ (by decide), h0]
  by_cases hi31 : i = 31
  · subst hi31
    rw [byte_clampWith_31 _ _ (by decide), byte_clampWith_31 _ _ (by decide),
      ← mask63_eq_mask127, ← mask63_eq_mask127, h31]
  rw [byte_clampWith_other _ _ hi0 hi31, byte_clampWith_other _ _ hi0 hi31, hother i hi0 hi31]

/-- The anti-masked key agrees with the drawn bytes off the clamped bits. -/
theorem agreeOffClampBits_antimask (r : Bytes 32) : AgreeOffClampBits (antimask r) r := by
  refine ⟨fun i h0 h31 => byte_antimask_other r h0 h31, ?_, ?_⟩
  · simp only [antimask, Bytes.byte_update_ne _ (by decide : (0 : Nat) ≠ 31),
      Bytes.byte_update_eq _ (by decide : 0 < 32), (antimask_low_byte _).1]
  · simp only [antimask, Bytes.byte_update_eq _ (by decide : 31 < 32),
      Bytes.byte_update_ne _ (by decide : (31 : Nat) ≠ 0), antimask_high_byte]

/-- An anti-masked key is never clamped: its byte 0 keeps bits 0-2 set. -/
theorem clampWith_antimask_ne (r : Bytes 32) : clampWith 127 (antimask r) ≠ antimask r := by
  intro h
  have h0 := congrArg (fun v => Bytes.byte v 0) h
  simp only [byte_clampWith_zero _ _ (by decide : 31 < 32)] at h0
  have : (antimask r).byte 0 = r.byte 0 ||| ~~~248 := by
    simp only [antimask, Bytes.byte_update_ne _ (by decide : (0 : Nat) ≠ 31),
      Bytes.byte_update_eq _ (by decide : 0 < 32)]
  rw [this] at h0
  exact (antimask_low_byte _).2 h0

/-! ## Section 4: The value of a clamped scalar -/

/-- A 32-byte buffer is its 31 low bytes plus `256^31` times byte 31. -/
theorem leValue_split_high (v : Bytes 32) :
    v.leValue = leValue (v.toList.take 31) + 256 ^ 31 * (v.byte 31).toNat := by
  have hlen := v.toList_length
  have hdrop : v.toList.drop 31 = [v.byte 31] := by
    apply List.ext_getElem (by simp [hlen])
    intro i h₁ h₂
    have hi : i = 0 := by simpa using h₂
    subst hi
    simp [Bytes.byte, List.getD_eq_getElem?_getD,
      List.getElem?_eq_getElem (by omega : 31 < v.toList.length)]
  rw [Bytes.leValue]
  conv_lhs => rw [← List.take_append_drop 31 v.toList]
  rw [leValue_append, hdrop, List.length_take, hlen]
  simp

/-- A buffer is congruent to its byte 0 modulo 8. -/
theorem leValue_mod_eight (v : Bytes (n + 1)) : v.leValue % 8 = (v.byte 0).toNat % 8 := by
  obtain ⟨l, hl⟩ := v
  cases l with
  | nil => simp at hl
  | cons b l => simp [Bytes.leValue, Bytes.byte, Nat.add_mod, Nat.mul_mod]

/-- **A clamped scalar is a multiple of 8 in `[2^254, 2^255)`.** -/
theorem clampWith_leValue (k : Bytes 32) :
    (clampWith 127 k).leValue % 8 = 0 ∧
      2 ^ 254 ≤ (clampWith 127 k).leValue ∧ (clampWith 127 k).leValue < 2 ^ 255 := by
  have hsplit := leValue_split_high (clampWith 127 k)
  have hlow : leValue ((clampWith 127 k).toList.take 31) < 256 ^ 31 := by
    simpa using leValue_lt ((clampWith 127 k).toList.take 31)
  obtain ⟨hge, hlt⟩ := clamped_high_byte_range (k.byte 31)
  rw [← byte_clampWith_31 _ _ (by decide)] at hge hlt
  refine ⟨?_, ?_, ?_⟩
  · rw [leValue_mod_eight, byte_clampWith_zero _ _ (by decide)]
    exact clamped_low_byte_mod_eight _
  all_goals rw [hsplit]; norm_num at hlow ⊢; omega

/-- A clamped buffer is never the all-zero erasure pattern: its byte 31 has bit 6 set. -/
theorem clampWith_ne_zeros (mask31 : UInt8) (buf : Bytes n) (h : 31 < n) :
    clampWith mask31 buf ≠ Bytes.zeros n := by
  intro hz
  have h31 := congrArg (fun v => Bytes.byte v 31) hz
  simp only [byte_clampWith_31 _ _ h] at h31
  have hz31 : (Bytes.zeros n).byte 31 = 0 := by
    simp [Bytes.byte, Bytes.zeros, List.getD_eq_getElem?_getD, List.getElem?_replicate, h]
  rw [hz31] at h31
  exact bit6_ne_zero _ h31

end Curve25519
