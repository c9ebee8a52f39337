import Mathlib.NumberTheory.LucasPrimality
import Mathlib.Data.List.Prime
import AwsLc.Ed25519.ScalarCheck

/-! # `ℓ` and the twist's large factor are prime

    X25519 and Ed25519 rely on two primes: the order `ℓ` of the base point,
    and the large factor `ℓ'` of the order `4ℓ'` of the quadratic twist of
    Curve25519. Both appear in the results on X25519 (`X25519.KeyAgreement`):
    a clamped scalar is a multiple of 8 in `[2^254, 2^255)`, so it is
    invertible modulo either prime, and that is what makes the all-zero
    check of `X25519` flag exactly the points of small order.

    Their primality is checked by Pratt certificates: Lucas's test
    (`lucas_primality`) proves `p` prime from a witness `a` with
    `a^(p-1) ≡ 1` and `a^((p-1)/q) ≢ 1 (mod p)` for every prime factor `q` of
    `p - 1`, and each `q` is certified by an earlier entry. The
    exponentiations are square-and-multiply, structurally recursive on a bit
    budget, so that the kernel evaluates the whole certificate with `decide`.
-/

namespace Curve25519

/-- The large prime factor of the order of the quadratic twist of Curve25519. -/
def Ltwist : Nat := 2 ^ 253 - 55484635554744707071703875581767296995

instance : NeZero Ltwist := ⟨by decide⟩

/-! ## Section 1: Square-and-multiply -/

/-- `acc * b ^ e % m`, by square-and-multiply over the `bits` low bits of `e`. -/
def powModAcc (m : Nat) : Nat → Nat → Nat → Nat → Nat
  | 0, acc, _, _ => acc % m
  | bits + 1, acc, b, e =>
    powModAcc m bits (if e % 2 = 1 then acc * b % m else acc) (b * b % m) (e / 2)

/-- Square-and-multiply is exact when the exponent fits in the bit budget. -/
theorem powModAcc_eq (m : Nat) :
    ∀ bits acc b e, e < 2 ^ bits → powModAcc m bits acc b e = acc * b ^ e % m
  | 0, acc, b, e, h => by
    obtain rfl : e = 0 := by simpa using h
    simp [powModAcc]
  | bits + 1, acc, b, e, h => by
    have hhalf : e / 2 < 2 ^ bits := by rw [pow_succ] at h; omega
    rw [powModAcc, powModAcc_eq m bits _ _ _ hhalf, ← ZMod.natCast_eq_natCast_iff']
    obtain ⟨k, rfl | rfl⟩ := Nat.even_or_odd' e
    · have hdiv : 2 * k / 2 = k := by omega
      simp only [Nat.mul_mod_right, zero_ne_one, if_false, hdiv]
      push_cast [ZMod.natCast_mod]
      ring
    · have hmod : (2 * k + 1) % 2 = 1 := by omega
      have hdiv : (2 * k + 1) / 2 = k := by omega
      simp only [hmod, hdiv, if_true]
      push_cast [ZMod.natCast_mod]
      ring

/-! ## Section 2: Pratt certificates -/

/-- One certified prime: the number, Lucas's witness, and the factorisation
    of `p - 1` as pairs of a prime and its exponent. -/
structure PrattEntry where
  p : Nat
  witness : Nat
  factors : List (Nat × Nat)

/-- A bit budget that covers every exponent below `p`, kept coarse so that it
    evaluates structurally. -/
def bitsFor (p : Nat) : Nat := if p < 2 ^ 32 then 32 else if p < 2 ^ 128 then 128 else 256

/-- Lucas's test for one entry, given the primes certified before it. -/
def PrattEntry.check (known : List Nat) (c : PrattEntry) : Bool :=
  let pow e := powModAcc c.p (bitsFor c.p) 1 c.witness e
  decide (2 ≤ c.p) && decide (c.p ≤ 2 ^ 256) && c.factors.all (fun f => f.1 ∈ known) &&
    (c.factors.map fun f => f.1 ^ f.2).prod == c.p - 1 && pow (c.p - 1) == 1 &&
    c.factors.all fun f => pow ((c.p - 1) / f.1) != 1

/-- A certificate, each entry checked against 2 and the entries before it. -/
def checkCert : List Nat → List PrattEntry → Bool
  | _, [] => true
  | known, c :: cs => c.check known && checkCert (c.p :: known) cs

theorem pow_lt_bitsFor {p e : Nat} (hp : p ≤ 2 ^ 256) (he : e < p) : e < 2 ^ bitsFor p := by
  unfold bitsFor
  split_ifs <;> omega

theorem zmod_pow_eq_one_iff {p : Nat} (hp : 2 ≤ p) (a n : Nat) :
    (a : ZMod p) ^ n = 1 ↔ 1 * a ^ n % p = 1 := by
  rw [one_mul, ← Nat.cast_pow, ← Nat.cast_one, ZMod.natCast_eq_natCast_iff',
    Nat.one_mod_eq_one.mpr (by omega)]

/-- An entry that passes Lucas's test over certified factors is prime. -/
theorem PrattEntry.prime_of_check {known : List Nat} {c : PrattEntry}
    (hknown : ∀ q ∈ known, q.Prime) (h : c.check known = true) : c.p.Prime := by
  simp only [PrattEntry.check, Bool.and_eq_true, decide_eq_true_eq, List.all_eq_true,
    beq_iff_eq, bne_iff_ne, ne_eq] at h
  obtain ⟨⟨⟨⟨⟨h2, hbig⟩, hfac⟩, hprod⟩, hone⟩, hnot⟩ := h
  have hexp : ∀ e, e ≤ c.p - 1 → powModAcc c.p (bitsFor c.p) 1 c.witness e =
      1 * c.witness ^ e % c.p := fun e he => powModAcc_eq _ _ _ _ _ (pow_lt_bitsFor hbig (by omega))
  refine lucas_primality c.p c.witness ?_ fun q hq hdvd => ?_
  · rw [zmod_pow_eq_one_iff h2, ← hexp _ le_rfl]
    exact hone
  · rw [← hprod] at hdvd
    obtain ⟨x, hx, hqx⟩ := (Prime.dvd_prod_iff hq.prime).mp hdvd
    obtain ⟨f, hf, rfl⟩ := List.mem_map.mp hx
    obtain rfl : q = f.1 :=
      (Nat.prime_dvd_prime_iff_eq hq (hknown _ (hfac f hf))).mp (hq.dvd_of_dvd_pow hqx)
    rw [ne_eq, zmod_pow_eq_one_iff h2, ← hexp _ (Nat.div_le_self _ _)]
    exact hnot _ hf

/-- Every number of a checked certificate is prime. -/
theorem checkCert_sound :
    ∀ {known : List Nat} {cs : List PrattEntry}, (∀ q ∈ known, q.Prime) →
      checkCert known cs = true → ∀ c ∈ cs, c.p.Prime
  | _, [], _, _, _, hc => by simp at hc
  | known, c :: cs, hknown, h, c', hc' => by
    simp only [checkCert, Bool.and_eq_true] at h
    have hp := PrattEntry.prime_of_check hknown h.1
    rcases List.mem_cons.mp hc' with rfl | hc'
    · exact hp
    · exact @checkCert_sound (c.p :: known) cs
        (fun q hq => (List.mem_cons.mp hq).elim (· ▸ hp) (hknown q)) h.2 c' hc'

/-! ## Section 3: The certificate -/

/-- The Pratt certificate of `ℓ`, from the small primes up; it ends with `ℓ`. -/
def certL : List PrattEntry := [
    ⟨3, 2, [(2, 1)]⟩, ⟨5, 2, [(2, 2)]⟩, ⟨11, 2, [(2, 1), (5, 1)]⟩, ⟨23, 5, [(2, 1), (11, 1)]⟩,
    ⟨47, 5, [(2, 1), (23, 1)]⟩, ⟨34123, 2, [(2, 1), (3, 1), (11, 2), (47, 1)]⟩,
    ⟨409477, 2, [(2, 2), (3, 1), (34123, 1)]⟩, ⟨14741173, 2, [(2, 2), (3, 2), (409477, 1)]⟩,
    ⟨58964693, 2, [(2, 2), (14741173, 1)]⟩, ⟨7, 3, [(2, 1), (3, 1)]⟩, ⟨17, 3, [(2, 4)]⟩,
    ⟨43, 3, [(2, 1), (3, 1), (7, 1)]⟩, ⟨30703, 3, [(2, 1), (3, 1), (7, 1), (17, 1), (43, 1)]⟩,
    ⟨13, 2, [(2, 2), (3, 1)]⟩, ⟨79, 3, [(2, 1), (3, 1), (13, 1)]⟩,
    ⟨41081, 3, [(2, 3), (5, 1), (13, 1), (79, 1)]⟩, ⟨82163, 2, [(2, 1), (41081, 1)]⟩,
    ⟨67, 2, [(2, 1), (3, 1), (11, 1)]⟩, ⟨22111, 6, [(2, 1), (3, 1), (5, 1), (11, 1), (67, 1)]⟩,
    ⟨132667, 5, [(2, 1), (3, 1), (22111, 1)]⟩, ⟨41, 6, [(2, 3), (5, 1)]⟩,
    ⟨1723, 3, [(2, 1), (3, 1), (7, 1), (41, 1)]⟩, ⟨17231, 13, [(2, 1), (5, 1), (1723, 1)]⟩,
    ⟨137849, 3, [(2, 3), (17231, 1)]⟩,
    ⟨3044861653679985063343, 5,
      [(2, 1), (3, 1), (11, 1), (30703, 1), (82163, 1), (132667, 1), (137849, 1)]⟩,
    ⟨198211423230930754013084525763697, 5,
      [(2, 4), (3, 1), (23, 1), (58964693, 1), (3044861653679985063343, 1)]⟩,
    ⟨269, 2, [(2, 2), (67, 1)]⟩, ⟨73, 5, [(2, 3), (3, 2)]⟩, ⟨307, 5, [(2, 1), (3, 2), (17, 1)]⟩,
    ⟨113, 3, [(2, 4), (7, 1)]⟩, ⟨2939, 2, [(2, 1), (13, 1), (113, 1)]⟩,
    ⟨5879, 11, [(2, 1), (2939, 1)]⟩, ⟨292386187, 2, [(2, 1), (3, 4), (307, 1), (5879, 1)]⟩,
    ⟨213441916511, 13, [(2, 1), (5, 1), (73, 1), (292386187, 1)]⟩,
    ⟨1361, 3, [(2, 4), (5, 1), (17, 1)]⟩, ⟨19, 2, [(2, 1), (3, 2)]⟩,
    ⟨2851, 2, [(2, 1), (3, 1), (5, 2), (19, 1)]⟩, ⟨3797, 2, [(2, 2), (13, 1), (73, 1)]⟩,
    ⟨531581, 2, [(2, 2), (5, 1), (7, 1), (3797, 1)]⟩,
    ⟨2551, 6, [(2, 1), (3, 1), (5, 2), (17, 1)]⟩,
    ⟨1224481, 13, [(2, 5), (3, 1), (5, 1), (2551, 1)]⟩,
    ⟨1257559732178653, 2, [(2, 2), (3, 1), (7, 1), (23, 1), (531581, 1), (1224481, 1)]⟩,
    ⟨4434155615661930479, 17, [(2, 1), (41, 1), (43, 1), (1257559732178653, 1)]⟩,
    ⟨172054593956031949258510691, 2,
      [(2, 1), (5, 1), (1361, 1), (2851, 1), (4434155615661930479, 1)]⟩,
    ⟨19757330305831588566944191468367130476339, 2,
      [(2, 1), (269, 1), (213441916511, 1), (172054593956031949258510691, 1)]⟩,
    ⟨276602624281642239937218680557139826668747, 2,
      [(2, 1), (7, 1), (19757330305831588566944191468367130476339, 1)]⟩,
    ⟨7237005577332262213973186563042994240857116359379907606001950938285454250989, 2,
      [(2, 2), (3, 1), (11, 1), (198211423230930754013084525763697, 1),
       (276602624281642239937218680557139826668747, 1)]⟩]

/-- The entries that the certificate of `ℓ'` adds to that of `ℓ`; it ends with `ℓ'`. -/
def certLtwist : List PrattEntry := [
    ⟨31, 3, [(2, 1), (3, 1), (5, 1)]⟩, ⟨2791, 6, [(2, 1), (3, 2), (5, 1), (31, 1)]⟩,
    ⟨117223, 3, [(2, 1), (3, 1), (7, 1), (2791, 1)]⟩,
    ⟨84457, 5, [(2, 3), (3, 3), (17, 1), (23, 1)]⟩, ⟨6418733, 2, [(2, 2), (19, 1), (84457, 1)]⟩,
    ⟨487, 3, [(2, 1), (3, 5)]⟩, ⟨101, 2, [(2, 2), (5, 2)]⟩,
    ⟨6263, 5, [(2, 1), (31, 1), (101, 1)]⟩, ⟨12527, 5, [(2, 1), (6263, 1)]⟩,
    ⟨1110318119, 7, [(2, 1), (7, 1), (13, 1), (487, 1), (12527, 1)]⟩,
    ⟨2220636239, 23, [(2, 1), (1110318119, 1)]⟩, ⟨727, 5, [(2, 1), (3, 1), (11, 2)]⟩,
    ⟨4363, 2, [(2, 1), (3, 1), (727, 1)]⟩, ⟨29, 2, [(2, 2), (7, 1)]⟩, ⟨233, 3, [(2, 3), (29, 1)]⟩,
    ⟨467, 2, [(2, 1), (233, 1)]⟩, ⟨3637, 2, [(2, 2), (3, 2), (101, 1)]⟩,
    ⟨227, 2, [(2, 1), (113, 1)]⟩, ⟨11351, 7, [(2, 1), (5, 2), (227, 1)]⟩,
    ⟨743104567, 6, [(2, 1), (3, 2), (3637, 1), (11351, 1)]⟩, ⟨191, 19, [(2, 1), (5, 1), (19, 1)]⟩,
    ⟨383, 5, [(2, 1), (191, 1)]⟩, ⟨3911, 13, [(2, 1), (5, 1), (17, 1), (23, 1)]⟩,
    ⟨61, 2, [(2, 2), (3, 1), (5, 1)]⟩, ⟨8053, 2, [(2, 2), (3, 1), (11, 1), (61, 1)]⟩,
    ⟨1013266244677, 2, [(2, 2), (3, 1), (7, 1), (383, 1), (3911, 1), (8053, 1)]⟩,
    ⟨727169, 3, [(2, 7), (13, 1), (19, 1), (23, 1)]⟩, ⟨181, 2, [(2, 2), (3, 2), (5, 1)]⟩,
    ⟨2281, 7, [(2, 3), (3, 1), (5, 1), (19, 1)]⟩, ⟨28859, 2, [(2, 1), (47, 1), (307, 1)]⟩,
    ⟨5171003929967, 5, [(2, 1), (7, 1), (31, 1), (181, 1), (2281, 1), (28859, 1)]⟩,
    ⟨22561162540501040539, 3, [(2, 1), (3, 1), (727169, 1), (5171003929967, 1)]⟩,
    ⟨203852586375664218368381551393371968928013, 2,
      [(2, 2), (3, 1), (743104567, 1), (1013266244677, 1), (22561162540501040539, 1)]⟩,
    ⟨104719073621178708975837602950775180438320278101, 2,
      [(2, 2), (5, 2), (11, 1), (467, 1), (203852586375664218368381551393371968928013, 1)]⟩,
    ⟨27413359092552162435694767700453926735143482401279781, 2,
      [(2, 2), (3, 1), (5, 1), (4363, 1), (104719073621178708975837602950775180438320278101, 1)]⟩,
    ⟨14474011154664524427946373126085988481603263447650325797860494125407373907997, 2,
      [(2, 2), (79, 1), (117223, 1), (6418733, 1), (2220636239, 1),
       (27413359092552162435694767700453926735143482401279781, 1)]⟩]

/-- Both certificates, in the order they are checked. -/
def curve25519Cert : List PrattEntry := certL ++ certLtwist

set_option maxRecDepth 100000 in
theorem curve25519Cert_check : checkCert [2] curve25519Cert = true := by decide

theorem prime_of_mem_curve25519Cert {p : Nat} (h : p ∈ curve25519Cert.map PrattEntry.p) :
    p.Prime := by
  obtain ⟨c, hc, rfl⟩ := List.mem_map.mp h
  exact checkCert_sound (by simpa using Nat.prime_two) curve25519Cert_check c hc

/-- `ℓ` is prime. -/
theorem L_prime : L.Prime := prime_of_mem_curve25519Cert (by decide)

/-- `ℓ'` is prime. -/
theorem Ltwist_prime : Ltwist.Prime := prime_of_mem_curve25519Cert (by decide)

end Curve25519
