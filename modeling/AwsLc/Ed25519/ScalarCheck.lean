import AwsLc.Bytes
import Mathlib.Tactic.IntervalCases
import Mathlib.Tactic.Linarith

/-! # The range check on `S` in `ED25519_verify`

    RFC 8032 requires a verifier to reject a signature whose scalar half `S`
    is not below the group order `ℓ`, so that `S` and `S + ℓ` are not both
    accepted. `ED25519_verify` does this with a loop over four 64-bit limbs
    of `S`, from the most significant down, against the constant `kOrder`:

        for (size_t i = 3;; i--) {
          uint64_t word = CRYPTO_load_u64_le(scopy + i * 8);
          if (word > kOrder[i]) { return 0; }
          else if (word < kOrder[i]) { break; }
          else if (i == 0) { return 0; }
        }

    The loop is modelled as it is written: a body on a `size_t` counter
    (`UInt64`), with a load that fails (`none`) when it would read outside
    `scopy` or `kOrder`, run under a fuel bound. The results are that the
    limbs of `kOrder` spell `ℓ`, that the body never decrements the counter
    from zero, and that from `i = 3` the loop leaves within four passes, by
    `break` exactly when `S < ℓ`, with its counter in `{0, 1, 2, 3}`.
    The comparison argument is the usual one for numbers in base `2^64`:
    limb-wise lexicographic order from the top is numeric order.
-/

namespace Curve25519

/-! ## Section 1: The constants and the load -/

/-- The order `ℓ` of the Ed25519 base point. -/
def L : Nat := 2 ^ 252 + 27742317777372353535851937790883648493

instance : NeZero L := ⟨by decide⟩

/-- `kOrder`: `ℓ` in four little-endian 64-bit limbs, as `ED25519_verify` spells it. -/
def kOrder : List UInt64 :=
  [0x5812631a5cf5d3ed, 0x14def9dea2f79cd6, 0, 0x1000000000000000]

/-- `CRYPTO_load_u64_le(buf + off)`: eight bytes from `off`, little-endian.
    A read that would leave the buffer is undefined behaviour, here `none`. -/
def CRYPTO_load_u64_le {n : Nat} (buf : Bytes n) (off : Nat) : Option UInt64 :=
  if off + 8 ≤ n then some (UInt64.ofNat (leValue ((buf.toList.drop off).take 8))) else none

/-- The `j`-th 64-bit limb of a byte list, as a number. -/
def limbOf (l : List UInt8) (j : Nat) : Nat := leValue ((l.drop (8 * j)).take 8)

/-- The `j`-th 64-bit limb of a buffer. -/
def limb {n : Nat} (buf : Bytes n) (j : Nat) : Nat := limbOf buf.toList j

/-- The value of the `m` low limbs of a limb sequence in base `2^64`. -/
def limbsValue (w : Nat → Nat) : Nat → Nat
  | 0 => 0
  | m + 1 => limbsValue w m + w m * 2 ^ (64 * m)

/-- The limbs of `kOrder`, as numbers. -/
def kOrderLimb (j : Nat) : Nat := ((kOrder[j]?).getD 0).toNat

theorem limb_lt {n : Nat} (buf : Bytes n) (j : Nat) : limb buf j < 2 ^ 64 :=
  calc limb buf j < 256 ^ ((buf.toList.drop (8 * j)).take 8).length := leValue_lt _
    _ ≤ 256 ^ 8 := Nat.pow_le_pow_right (by decide) (by simp)
    _ = 2 ^ 64 := by norm_num

theorem CRYPTO_load_u64_le_limb {n : Nat} (buf : Bytes n) {j : Nat} (h : 8 * j + 8 ≤ n) :
    CRYPTO_load_u64_le buf (8 * j) = some (UInt64.ofNat (limb buf j)) := by
  simp [CRYPTO_load_u64_le, limb, limbOf, h]

theorem toNat_ofNat_limb {n : Nat} (buf : Bytes n) (j : Nat) :
    (UInt64.ofNat (limb buf j)).toNat = limb buf j :=
  UInt64.toNat_ofNat_of_lt (limb_lt buf j)

/-- Peeling the lowest limb off a limb sum. -/
theorem limbsValue_succ_bottom (w : Nat → Nat) : ∀ m,
    limbsValue w (m + 1) = w 0 + 2 ^ 64 * limbsValue (fun j => w (j + 1)) m
  | 0 => by simp [limbsValue]
  | m + 1 => by
    rw [limbsValue, limbsValue_succ_bottom w m, limbsValue]
    ring

/-- A byte list of `8 * m` bytes is the sum of its `m` limbs. -/
theorem leValue_eq_limbsValue_limbOf :
    ∀ (m : Nat) (l : List UInt8), l.length = 8 * m → leValue l = limbsValue (limbOf l) m
  | 0, l, h => by simp [List.eq_nil_of_length_eq_zero h, limbsValue]
  | m + 1, l, h => by
    have hrest := leValue_eq_limbsValue_limbOf m (l.drop 8) (by simp [h]; omega)
    have hshift : (fun j => limbOf l (j + 1)) = limbOf (l.drop 8) := by
      funext j
      simp only [limbOf, List.drop_drop]
      ring_nf
    conv_lhs => rw [← List.take_append_drop 8 l]
    rw [leValue_append, List.length_take, Nat.min_eq_left (by omega), hrest,
      limbsValue_succ_bottom, hshift]
    simp [limbOf]

/-- A 32-byte buffer is the sum of its four limbs. -/
theorem leValue_eq_limbsValue (buf : Bytes 32) : buf.leValue = limbsValue (limb buf) 4 :=
  leValue_eq_limbsValue_limbOf 4 buf.toList (by simp)

/-- The limbs of `kOrder` spell `ℓ`. -/
theorem limbsValue_kOrder : limbsValue kOrderLimb 4 = L := by decide

theorem kOrderLimb_lt (j : Nat) : kOrderLimb j < 2 ^ 64 := UInt64.toNat_lt_size _

/-! ## Section 2: Base-`2^64` comparison from the top limb -/

section Lex

variable {w k : Nat → Nat}

theorem limbsValue_lt (hw : ∀ j, w j < 2 ^ 64) : ∀ m, limbsValue w m < 2 ^ (64 * m)
  | 0 => by simp [limbsValue]
  | m + 1 => by
    have ih := limbsValue_lt hw m
    have hm : w m * 2 ^ (64 * m) + 2 ^ (64 * m) ≤ 2 ^ (64 * (m + 1)) := by
      rw [show 64 * (m + 1) = 64 * m + 64 by ring, pow_add]
      nlinarith [hw m]
    simp only [limbsValue]
    omega

/-- A larger top limb makes the larger number. -/
theorem limbsValue_lt_of_top_lt (hw : ∀ j, w j < 2 ^ 64) {m : Nat} (h : w m < k m) :
    limbsValue w (m + 1) < limbsValue k (m + 1) := by
  have hlow := limbsValue_lt hw m
  have : w m * 2 ^ (64 * m) + 2 ^ (64 * m) ≤ k m * 2 ^ (64 * m) := by nlinarith
  simp only [limbsValue]
  omega

/-- Equal top limbs leave the comparison to the limbs below. -/
theorem limbsValue_lt_of_top_eq {m : Nat} (h : w m = k m) :
    limbsValue w (m + 1) < limbsValue k (m + 1) ↔ limbsValue w m < limbsValue k m := by
  simp only [limbsValue, h]
  omega

end Lex

/-! ## Section 3: The loop -/

/-- How the loop is left: `return 0`, or `break` to the rest of the verification. -/
inductive LoopExit
  | rejected
  | broke
  deriving DecidableEq, Repr

/-- One pass of the loop body at counter `i`: an exit, or the decremented
    counter. `none` is a read outside `scopy` or `kOrder`. -/
def orderLoopBody (scopy : Bytes 32) (i : UInt64) : Option (LoopExit ⊕ UInt64) := do
  let word ← CRYPTO_load_u64_le scopy (i * 8).toNat
  let order ← kOrder[i.toNat]?
  if word > order then return .inl .rejected
  else if word < order then return .inl .broke
  else if i = 0 then return .inl .rejected
  else return .inr (i - 1)

/-- `for (size_t i = start;; i--) { body }` for at most `fuel` passes: the
    exit taken and the counter at which it was taken. -/
def orderLoop (scopy : Bytes 32) : Nat → UInt64 → Option (LoopExit × UInt64)
  | 0, _ => none
  | fuel + 1, i =>
    match orderLoopBody scopy i with
    | none => none
    | some (.inl e) => some (e, i)
    | some (.inr i') => orderLoop scopy fuel i'

theorem orderLoop_succ (scopy : Bytes 32) (fuel : Nat) (i : UInt64) :
    orderLoop scopy (fuel + 1) i =
      match orderLoopBody scopy i with
      | none => none
      | some (.inl e) => some (e, i)
      | some (.inr i') => orderLoop scopy fuel i' := rfl

/-- **No wrap**: the body decrements the counter only from a nonzero value. -/
theorem orderLoopBody_next {scopy : Bytes 32} {i j : UInt64}
    (h : orderLoopBody scopy i = some (.inr j)) : i ≠ 0 ∧ j = i - 1 := by
  unfold orderLoopBody at h
  generalize CRYPTO_load_u64_le scopy (i * 8).toNat = w at h
  generalize kOrder[i.toNat]? = k at h
  cases w <;> cases k <;> simp at h
  split_ifs at h with h₁ h₂ h₃ <;> simp at h
  exact ⟨h₃, h.symm⟩

/-- What the counters `0, 1, 2, 3` address: limb offset, array index, the
    test `i == 0`, and the decrement. -/
theorem counter_facts {i : Nat} (hi : i < 4) :
    (UInt64.ofNat i * 8).toNat = 8 * i ∧ (UInt64.ofNat i).toNat = i ∧
      (UInt64.ofNat i = 0 ↔ i = 0) ∧ (i ≠ 0 → UInt64.ofNat i - 1 = UInt64.ofNat (i - 1)) ∧
      kOrder[i]? = some (UInt64.ofNat (kOrderLimb i)) := by
  interval_cases i <;> decide

/-- The body at a counter `i < 4` compares limb `i` of `scopy` with limb `i`
    of `kOrder`; it reads nothing outside either. -/
theorem orderLoopBody_limb (scopy : Bytes 32) {i : Nat} (hi : i < 4) :
    orderLoopBody scopy (UInt64.ofNat i) =
      some (if kOrderLimb i < limb scopy i then .inl .rejected
        else if limb scopy i < kOrderLimb i then .inl .broke
        else if i = 0 then .inl .rejected
        else .inr (UInt64.ofNat (i - 1))) := by
  obtain ⟨hoff, hidx, hzero, hdec, hk⟩ := counter_facts hi
  have hload := CRYPTO_load_u64_le_limb scopy (show 8 * i + 8 ≤ 32 by omega)
  have hkn : (UInt64.ofNat (kOrderLimb i)).toNat = kOrderLimb i :=
    UInt64.toNat_ofNat_of_lt (kOrderLimb_lt i)
  simp only [orderLoopBody, hoff, hidx, hload, hk, Option.pure_def, Option.bind_eq_bind,
    Option.some_bind, gt_iff_lt, UInt64.lt_def, BitVec.lt_def]
  rw [← UInt64.toNat, ← UInt64.toNat, hkn, toNat_ofNat_limb]
  simp only [hzero]
  split_ifs with h₁ h₂ h₃ <;> [rfl; rfl; rfl; rw [hdec h₃]]

/-- **The loop from counter `i < 4`** leaves within `i + 1` passes, at a
    counter no larger than `i`, by `break` exactly when the `i + 1` low limbs
    of `scopy` are below those of `kOrder`. -/
theorem orderLoop_spec (scopy : Bytes 32) :
    ∀ (i fuel : Nat), i < 4 → ∃ j ≤ i,
      orderLoop scopy (fuel + i + 1) (UInt64.ofNat i) =
        some (if limbsValue (limb scopy) (i + 1) < limbsValue kOrderLimb (i + 1)
          then .broke else .rejected, UInt64.ofNat j)
  | i, fuel, hi => by
    have hw := limb_lt scopy
    rw [orderLoop_succ, orderLoopBody_limb scopy hi]
    rcases lt_trichotomy (limb scopy i) (kOrderLimb i) with hlt | heq | hgt
    · exact ⟨i, le_rfl, by simp [hlt, Nat.not_lt.mpr hlt.le, limbsValue_lt_of_top_lt hw hlt]⟩
    · simp only [limbsValue_lt_of_top_eq heq]
      cases i with
      | zero => exact ⟨0, le_rfl, by simp [heq, limbsValue]⟩
      | succ i =>
        obtain ⟨j, hj, hrun⟩ := orderLoop_spec scopy i fuel (by omega)
        exact ⟨j, by omega, by simpa [heq] using hrun⟩
    · have hge := (limbsValue_lt_of_top_lt (fun j => kOrderLimb_lt j) hgt).le
      exact ⟨i, le_rfl, by simp [hgt, Nat.not_lt.mpr hgt.le, Nat.not_lt.mpr hge]⟩

/-- **The range check**: from `i = 3`, with any fuel of at least four passes,
    the loop breaks exactly when `S < ℓ`, and otherwise returns `0`; it leaves
    with a counter in `{0, 1, 2, 3}`. -/
theorem orderLoop_three (scopy : Bytes 32) (fuel : Nat) :
    ∃ j ≤ 3, orderLoop scopy (fuel + 4) 3 =
      some (if scopy.leValue < L then .broke else .rejected, UInt64.ofNat j) := by
  simpa [leValue_eq_limbsValue, limbsValue_kOrder] using orderLoop_spec scopy 3 fuel (by decide)

end Curve25519
