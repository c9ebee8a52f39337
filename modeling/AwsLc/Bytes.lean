import Mathlib.Data.Vector.Basic
import Mathlib.Data.Nat.Digits

/-! # Byte buffers

    The C code of `curve25519.c` passes fixed-size `uint8_t` arrays between
    its functions: 32-byte seeds, scalars and point encodings, 64-byte
    digests, private keys and signatures. A buffer `uint8_t buf[n]` is a
    `Bytes n`: a list of `n` bytes whose length is carried by the type, so
    that a buffer of the wrong size cannot be built.

    Scalars and field elements are read from buffers little-endian, as
    `CRYPTO_load_u64_le` and the arithmetic engine do; `leValue` is that
    reading, and `leBytes` writes a number back. The lemmas here are the
    only facts about byte lists the rest of the development uses: splitting
    a buffer into limbs, the range of a reading, injectivity on buffers of
    one length, and the round trip through `leBytes`.
-/

namespace Curve25519

/-- A C buffer `uint8_t buf[n]`, first byte first. -/
abbrev Bytes (n : Nat) := Mathlib.Vector UInt8 n

/-! ## Section 1: Little-endian reading and writing -/

/-- The little-endian value of a byte list: `b₀ + 256·b₁ + 256²·b₂ + …`. -/
def leValue (l : List UInt8) : Nat := Nat.ofDigits 256 (l.map UInt8.toNat)

/-- The `n` low bytes of `x`, least significant first. -/
def leBytes : Nat → Nat → List UInt8
  | 0, _ => []
  | n + 1, x => UInt8.ofNat (x % 256) :: leBytes n (x / 256)

@[simp] theorem leValue_nil : leValue [] = 0 := rfl

@[simp] theorem leValue_cons (b : UInt8) (l : List UInt8) :
    leValue (b :: l) = b.toNat + 256 * leValue l := by
  simp [leValue, Nat.ofDigits_cons]

@[simp] theorem length_leBytes (n x : Nat) : (leBytes n x).length = n := by
  induction n generalizing x <;> simp [leBytes, *]

theorem leValue_append (l₁ l₂ : List UInt8) :
    leValue (l₁ ++ l₂) = leValue l₁ + 256 ^ l₁.length * leValue l₂ := by
  simp [leValue, Nat.ofDigits_append]

theorem leValue_lt (l : List UInt8) : leValue l < 256 ^ l.length := by
  induction l with
  | nil => simp
  | cons b l ih =>
    have hb := b.toNat_lt_size
    simp only [leValue_cons, List.length_cons, pow_succ]
    simp only [UInt8.size] at hb
    omega

/-- Writing `n` bytes and reading them back keeps `x` modulo `256 ^ n`. -/
theorem leValue_leBytes (n x : Nat) : leValue (leBytes n x) = x % 256 ^ n := by
  induction n generalizing x with
  | zero => simp [leBytes, Nat.mod_one]
  | succ n ih =>
    have hlow : (UInt8.ofNat (x % 256)).toNat = x % 256 :=
      UInt8.toNat_ofNat_of_lt (Nat.mod_lt _ (by decide))
    simp only [leBytes, leValue_cons, hlow, ih, pow_succ']
    rw [Nat.mod_mul, Nat.mul_comm]

/-- Two byte lists of one length with one value are equal. -/
theorem leValue_inj : ∀ {l₁ l₂ : List UInt8}, l₁.length = l₂.length →
    leValue l₁ = leValue l₂ → l₁ = l₂
  | [], [], _, _ => rfl
  | b₁ :: l₁, b₂ :: l₂, hlen, hval => by
    simp only [leValue_cons] at hval
    have h₁ := b₁.toNat_lt_size
    have h₂ := b₂.toNat_lt_size
    simp only [UInt8.size] at h₁ h₂
    have hb : b₁ = b₂ := UInt8.toNat.inj (by omega)
    have hl : leValue l₁ = leValue l₂ := by omega
    rw [hb, leValue_inj (by simpa using hlen) hl]

/-- A byte list reads as zero exactly when every byte is zero. -/
theorem leValue_eq_zero_iff : ∀ {l : List UInt8}, leValue l = 0 ↔ ∀ b ∈ l, b = 0
  | [] => by simp
  | b :: l => by
    have hb : b.toNat = 0 ↔ b = 0 := ⟨fun h => UInt8.toNat.inj h, fun h => h ▸ rfl⟩
    rw [List.forall_mem_cons, ← hb, ← leValue_eq_zero_iff (l := l), leValue_cons]
    omega

/-! ## Section 2: Buffers -/

namespace Bytes

variable {n : Nat}

/-- The little-endian value of a buffer. -/
def leValue (v : Bytes n) : Nat := Curve25519.leValue v.toList

/-- The buffer holding the `n` low bytes of `x`, little-endian. -/
def ofNat (n x : Nat) : Bytes n := ⟨leBytes n x, length_leBytes n x⟩

/-- The all-zero buffer, which is also what `OPENSSL_cleanse` leaves behind. -/
def zeros (n : Nat) : Bytes n := ⟨List.replicate n 0, List.length_replicate n 0⟩

/-- `buf[i] = f(buf[i])`: a compound assignment to one byte (`&=`, `|=`). -/
def update (v : Bytes n) (i : Nat) (f : UInt8 → UInt8) : Bytes n :=
  ⟨v.toList.modify f i, by simp⟩

/-- The byte at index `i`, or `0` past the end. -/
def byte (v : Bytes n) (i : Nat) : UInt8 := v.toList.getD i 0

theorem leValue_lt (v : Bytes n) : v.leValue < 256 ^ n := by
  simpa [leValue, v.toList_length] using Curve25519.leValue_lt v.toList

theorem leValue_ofNat (n x : Nat) : (ofNat n x).leValue = x % 256 ^ n :=
  leValue_leBytes n x

/-- Reading is injective on buffers of one size. -/
theorem leValue_inj {v w : Bytes n} (h : v.leValue = w.leValue) : v = w :=
  Mathlib.Vector.toList_injective
    (Curve25519.leValue_inj (by simp) h)

theorem leValue_eq_zero_iff {v : Bytes n} : v.leValue = 0 ↔ v = zeros n := by
  constructor
  · intro h
    apply Mathlib.Vector.toList_injective
    apply List.eq_replicate_iff.mpr
    exact ⟨by simp, Curve25519.leValue_eq_zero_iff.mp h⟩
  · rintro rfl
    simp [leValue, zeros, Curve25519.leValue_eq_zero_iff]

@[simp] theorem toList_update (v : Bytes n) (i : Nat) (f : UInt8 → UInt8) :
    (v.update i f).toList = v.toList.modify f i := rfl

theorem byte_update_eq (v : Bytes n) {i : Nat} (h : i < n) (f : UInt8 → UInt8) :
    (v.update i f).byte i = f (v.byte i) := by
  simp [byte, List.getD_eq_getElem?_getD, List.getElem?_modify_eq, v.toList_length, h]

theorem byte_update_ne (v : Bytes n) {i j : Nat} (h : j ≠ i) (f : UInt8 → UInt8) :
    (v.update i f).byte j = v.byte j := by
  simp only [byte, toList_update, List.getD_eq_getElem?_getD, List.getElem?_modify_ne f _ (Ne.symm h)]

/-- Buffers with the same bytes are equal. -/
theorem ext_byte {v w : Bytes n} (h : ∀ i < n, v.byte i = w.byte i) : v = w := by
  apply Mathlib.Vector.toList_injective
  apply List.ext_getElem (by simp)
  intro i hv hw
  have := h i (by simpa using hv)
  simpa [byte, List.getD_eq_getElem?_getD, List.getElem?_eq_getElem hv,
    List.getElem?_eq_getElem hw] using this

/-- `buf[0..32]` of a 64-byte buffer: a scalar read from a digest, `R` of a signature. -/
def lo (v : Bytes 64) : Bytes 32 := ⟨v.toList.take 32, by simp⟩

/-- `buf + 32` of a 64-byte buffer: the second half of a digest, `S` of a signature,
    the public half of an Ed25519 private key. -/
def hi (v : Bytes 64) : Bytes 32 := ⟨v.toList.drop 32, by simp⟩

/-- `a ‖ b`: two 32-byte halves written into one 64-byte buffer. -/
def concat (a b : Bytes 32) : Bytes 64 := ⟨a.toList ++ b.toList, by simp⟩

@[simp] theorem lo_concat (a b : Bytes 32) : (concat a b).lo = a :=
  Mathlib.Vector.toList_injective (by simp [lo, concat])

@[simp] theorem hi_concat (a b : Bytes 32) : (concat a b).hi = b :=
  Mathlib.Vector.toList_injective (by simp [hi, concat])

theorem byte_hi (v : Bytes 64) (i : Nat) : v.hi.byte i = v.byte (32 + i) := by
  simp [byte, hi, List.getD_eq_getElem?_getD]

end Bytes

/-- `CRYPTO_memcmp(a, b, n)`: zero exactly when the buffers are equal; the
    library promises nothing else about the value. -/
def CRYPTO_memcmp {n : Nat} (a b : Bytes n) : Int := if a = b then 0 else 1

@[simp] theorem CRYPTO_memcmp_eq_zero {n : Nat} {a b : Bytes n} : CRYPTO_memcmp a b = 0 ↔ a = b := by
  unfold CRYPTO_memcmp
  split_ifs <;> simp_all

/-! ## Section 3: Facts about single bytes -/

/-- A property of every byte follows from its check on the 256 values; used
    with `decide` for the masks of the clamping code. -/
theorem UInt8.forall_of_fin {P : UInt8 → Prop} (h : ∀ n : Fin 256, P (UInt8.ofNat n))
    (x : UInt8) : P x := by
  simpa [UInt8.ofNat, UInt8.toNat] using h ⟨x.toNat, x.toNat_lt_size⟩

end Curve25519
