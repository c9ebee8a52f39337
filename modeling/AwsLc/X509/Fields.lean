import AwsLc.X509.Getters
import AwsLc.X509.Validity
import AwsLc.X509.Concurrency

/-! # What the cached fields hold

    Each field of the cache that the getters and the checks read is written
    by one block of `x509v3_cache_extensions`, and every other block leaves
    it alone (`Frame`, `cacheBlocks_frame`). So a field's final value is
    what its own block makes of its initial value (`computedCache_field`),
    whatever the other blocks do. `EXFLAG_SS` is the exception: its block
    reads the key identifiers and the key usage that earlier blocks cached,
    and these are already final when it runs.

    From a cache with every flag clear, as a new `X509` has, and a call
    that returns 1:

    * the getters give back the certificate's own extensions: the key
      identifiers, the path length, the key-usage bits as the first two
      bytes of the bit string read little-endian, and the extended key usage
      as the union of the bits of the listed purposes; all ones, or -1 for
      the path length, when the extension is absent;
    * `EXFLAG_SS`, computed from the cache as it is after seven blocks,
      agrees with `X509_check_issued(x, x)`, which reads the finished cache;
    * `X509_check_ca` accepts exactly a certificate whose key usage, if any,
      allows certificate signing, and that is a CA by its basic constraints
      or a self-signed version 1 certificate;
    * the cached names are the certificate's, and each CRL distribution
      point is cached as `setup_dp` completes it;
    * every flag `X509_get_extension_flags` reports says what the
      certificate has.
-/

namespace X509v3

variable (env : X509Env) (cert : Cert)

/-! ## Section 1: Each field has one writer -/

/-- `c'` agrees with `c` on the fields that the `j`-th block does not own:
    `EXFLAG_V1` (block 1), the basic constraints (block 2), the key usage
    (block 3), the extended key usage (block 4), the Netscape cert type
    (block 5), `skid` (block 6), `akid` (block 7), `EXFLAG_SI` and `EXFLAG_SS` (block 8),
    `altname` (block 9), `nc` (block 10) and `crldp` (block 11). -/
structure Frame (j : Nat) (c c' : Cache) : Prop where
  v1 : j ≠ 1 → c'.ex_flags.v1 = c.ex_flags.v1
  bc : j ≠ 2 → (c'.ex_flags.bcons, c'.ex_flags.ca, c'.ex_pathlen) =
    (c.ex_flags.bcons, c.ex_flags.ca, c.ex_pathlen)
  ku : j ≠ 3 → (c'.ex_flags.kusage, c'.ex_kusage) = (c.ex_flags.kusage, c.ex_kusage)
  xku : j ≠ 4 → (c'.ex_flags.xkusage, c'.ex_xkusage) = (c.ex_flags.xkusage, c.ex_xkusage)
  ns : j ≠ 5 → (c'.ex_flags.nscert, c'.ex_nscert) = (c.ex_flags.nscert, c.ex_nscert)
  skid : j ≠ 6 → c'.skid = c.skid
  akid : j ≠ 7 → c'.akid = c.akid
  si : j ≠ 8 → c'.ex_flags.si = c.ex_flags.si
  ss : j ≠ 8 → c'.ex_flags.ss = c.ex_flags.ss
  altname : j ≠ 9 → c'.altname = c.altname
  nc : j ≠ 10 → c'.nc = c.nc
  crldp : j ≠ 11 → c'.crldp = c.crldp

/-- Each block writes only the fields it owns. -/
theorem cacheBlocks_frame {j : Nat} {f : Cache → Cache}
    (hf : (cacheBlocks env cert)[j]? = some f) (c : Cache) : Frame j c (f c) := by
  obtain ⟨hj, rfl⟩ := List.getElem?_eq_some_iff.mp hf
  have h13 : j < 13 := hj
  rcases j with _ | _ | _ | _ | _ | _ | _ | _ | _ | _ | _ | _ | _ | j
  all_goals first
    | (dsimp only [cacheBlocks, List.getElem_cons_zero, List.getElem_cons_succ, cacheDigest,
        cacheVersion, cacheBasicConstraints, cacheKeyUsage, cacheExtKeyUsage, cacheNsCertType,
        cacheSkid, cacheAkid, cacheSelfSigned, cacheAltname, cacheNameConstraints, cacheCrldp,
        cacheCritical, storeExt]
       repeat' split
       all_goals constructor <;> intro h <;> first | rfl | exact absurd rfl h)
    | omega

variable {β : Type} (proj : Cache → β)

/-- The first `i` blocks keep a field that none of them owns. -/
theorem runBlocks_keep {i : Nat} (hkeep : ∀ j < i, ∀ c c', Frame j c c' → proj c' = proj c)
    (c : Cache) : proj (runBlocks env cert i c) = proj c := by
  refine foldl_proj proj _ (fun g hg c => ?_) c
  obtain ⟨n, hn⟩ := List.mem_iff_getElem?.mp hg
  rw [List.getElem?_take] at hn
  split_ifs at hn with hlt
  exact hkeep n hlt c (g c) (cacheBlocks_frame env cert hn c)

/-- The blocks from the `i`-th on keep a field that none of them owns. -/
theorem computedCache_keep {i : Nat} (hkeep : ∀ j, i ≤ j → ∀ c c', Frame j c c' → proj c' = proj c)
    (hmark : ∀ c, proj c.markSet = proj c) (c : Cache) :
    proj (computedCache env cert c) = proj (runBlocks env cert i c) := by
  have hsplit : runBlocks env cert (cacheBlocks env cert).length c =
      ((cacheBlocks env cert).drop i).foldl (fun c g => g c) (runBlocks env cert i c) := by
    rw [runBlocks, runBlocks, List.take_length, ← List.foldl_append, List.take_append_drop]
  have hlater : ∀ g ∈ (cacheBlocks env cert).drop i, ∀ c, proj (g c) = proj c := by
    intro g hg c
    obtain ⟨n, hn⟩ := List.mem_iff_getElem?.mp hg
    rw [List.getElem?_drop] at hn
    exact hkeep (i + n) (Nat.le_add_right i n) c (g c) (cacheBlocks_frame env cert hn c)
  rw [computedCache, hmark, hsplit, foldl_proj proj _ hlater]

/-- **A field is what its writer makes of it**: if the `i`-th block
    writes a field from that field alone, and every other block and
    `EXFLAG_SET` keep it, the computed cache holds what the `i`-th block
    alone makes of the initial cache. -/
theorem computedCache_field {i : Nat} {f : Cache → Cache} (hf : (cacheBlocks env cert)[i]? = some f)
    (hown : ∀ c c', proj c = proj c' → proj (f c) = proj (f c'))
    (hkeep : ∀ j, j ≠ i → ∀ c c', Frame j c c' → proj c' = proj c)
    (hmark : ∀ c, proj c.markSet = proj c) (c : Cache) :
    proj (computedCache env cert c) = proj (f c) := by
  rw [computedCache_keep env cert proj (i := i + 1) (fun j hj => hkeep j (by omega)) hmark,
    runBlocks_succ env cert hf]
  exact hown _ _ (runBlocks_keep env cert proj (fun j hj => hkeep j (by omega)) c)

/-! ## Section 2: The final value of each field -/

variable {env cert}

theorem computedCache_v1 (c : Cache) :
    (computedCache env cert c).ex_flags.v1 = (cacheVersion env cert c).ex_flags.v1 :=
  computedCache_field env cert (·.ex_flags.v1) (f := cacheVersion env cert) rfl
    (fun c c' h => by unfold cacheVersion; split_ifs; exacts [rfl, h])
    (fun _ hj _ _ h => h.v1 hj) (fun _ => rfl) c

theorem computedCache_bc (c : Cache) :
    (computedCache env cert c).ex_flags.bcons = (cacheBasicConstraints env cert c).ex_flags.bcons ∧
      (computedCache env cert c).ex_flags.ca = (cacheBasicConstraints env cert c).ex_flags.ca ∧
      (computedCache env cert c).ex_pathlen = (cacheBasicConstraints env cert c).ex_pathlen := by
  simpa only [Prod.mk.injEq] using
    computedCache_field env cert (fun c => (c.ex_flags.bcons, c.ex_flags.ca, c.ex_pathlen))
      (f := cacheBasicConstraints env cert) rfl
      (fun c c' h => by
        simp only [Prod.mk.injEq] at h
        obtain ⟨h1, h2, h3⟩ := h
        unfold cacheBasicConstraints
        split <;> (try dsimp only) <;> (repeat' split) <;>
          simp only [Cache.modifyFlags, Cache.setInvalid, h1, h2, h3])
      (fun _ hj _ _ h => h.bc hj) (fun _ => rfl) c

theorem computedCache_ku (c : Cache) :
    (computedCache env cert c).ex_flags.kusage = (cacheKeyUsage cert c).ex_flags.kusage ∧
      (computedCache env cert c).ex_kusage = (cacheKeyUsage cert c).ex_kusage :=
  Prod.mk.inj <| computedCache_field env cert (fun c => (c.ex_flags.kusage, c.ex_kusage))
    (f := cacheKeyUsage cert) rfl
    (fun c c' h => by unfold cacheKeyUsage; split; exacts [rfl, h, h])
    (fun _ hj _ _ h => h.ku hj) (fun _ => rfl) c

theorem computedCache_xku (c : Cache) :
    (computedCache env cert c).ex_flags.xkusage = (cacheExtKeyUsage env cert c).ex_flags.xkusage ∧
      (computedCache env cert c).ex_xkusage = (cacheExtKeyUsage env cert c).ex_xkusage :=
  Prod.mk.inj <| computedCache_field env cert (fun c => (c.ex_flags.xkusage, c.ex_xkusage))
    (f := cacheExtKeyUsage env cert) rfl
    (fun c c' h => by
      simp only [Prod.mk.injEq] at h
      unfold cacheExtKeyUsage
      split <;> simp only [Cache.modifyFlags, Cache.setInvalid, h.1])
    (fun _ hj _ _ h => h.xku hj) (fun _ => rfl) c

theorem computedCache_ns (c : Cache) :
    (computedCache env cert c).ex_flags.nscert = (cacheNsCertType cert c).ex_flags.nscert ∧
      (computedCache env cert c).ex_nscert = (cacheNsCertType cert c).ex_nscert :=
  Prod.mk.inj <| computedCache_field env cert (fun c => (c.ex_flags.nscert, c.ex_nscert))
    (f := cacheNsCertType cert) rfl
    (fun c c' h => by unfold cacheNsCertType; split; exacts [rfl, h, h])
    (fun _ hj _ _ h => h.ns hj) (fun _ => rfl) c

/-- A block that stores an extension leaves the stored field holding the
    decoded value, or `NULL`, whatever the field held before. -/
theorem storeExt_field {α : Type} (l : ExtLookup α) (store : Option α → Cache → Cache)
    (proj : Cache → Option α) (hstore : ∀ v c, proj (store v c) = v)
    (hinv : ∀ c, proj c.setInvalid = proj c) (c : Cache) :
    proj (storeExt l store c) = l.toOption := by
  unfold storeExt
  split_ifs <;> simp only [hinv, hstore]

theorem computedCache_skid (c : Cache) :
    (computedCache env cert c).skid = cert.subjectKeyId.toOption :=
  have h := storeExt_field cert.subjectKeyId _ (·.skid) (fun _ _ => rfl) (fun _ => rfl)
  computedCache_field env cert (·.skid) (f := cacheSkid cert) rfl
    (fun c c' _ => (h c).trans (h c').symm) (fun _ hj _ _ h => h.skid hj) (fun _ => rfl) c
    |>.trans (h c)

theorem computedCache_akid (c : Cache) :
    (computedCache env cert c).akid = cert.authorityKeyId.toOption :=
  have h := storeExt_field cert.authorityKeyId _ (·.akid) (fun _ _ => rfl) (fun _ => rfl)
  computedCache_field env cert (·.akid) (f := cacheAkid cert) rfl
    (fun c c' _ => (h c).trans (h c').symm) (fun _ hj _ _ h => h.akid hj) (fun _ => rfl) c
    |>.trans (h c)

theorem computedCache_altname (c : Cache) :
    (computedCache env cert c).altname = cert.subjectAltName.toOption :=
  have h := storeExt_field cert.subjectAltName _ (·.altname) (fun _ _ => rfl) (fun _ => rfl)
  computedCache_field env cert (·.altname) (f := cacheAltname cert) rfl
    (fun c c' _ => (h c).trans (h c').symm) (fun _ hj _ _ h => h.altname hj) (fun _ => rfl) c
    |>.trans (h c)

theorem computedCache_nc (c : Cache) :
    (computedCache env cert c).nc = cert.nameConstraints.toOption :=
  have h := storeExt_field cert.nameConstraints _ (·.nc) (fun _ _ => rfl) (fun _ => rfl)
  computedCache_field env cert (·.nc) (f := cacheNameConstraints cert) rfl
    (fun c c' _ => (h c).trans (h c').symm) (fun _ hj _ _ h => h.nc hj) (fun _ => rfl) c
    |>.trans (h c)

theorem cacheCrldp_crldp (c : Cache) :
    (cacheCrldp env cert c).crldp =
      cert.crlDistributionPoints.toOption.map fun dps => (setupDps env cert dps).1 := by
  unfold cacheCrldp
  rcases cert.crlDistributionPoints with _ | _ | dps
  · rfl
  · rfl
  · dsimp only
    split_ifs <;> rfl

theorem computedCache_crldp (c : Cache) :
    (computedCache env cert c).crldp =
      cert.crlDistributionPoints.toOption.map fun dps => (setupDps env cert dps).1 :=
  computedCache_field env cert (·.crldp) (f := cacheCrldp env cert) rfl
    (fun c c' _ => (cacheCrldp_crldp c).trans (cacheCrldp_crldp c').symm)
    (fun _ hj _ _ h => h.crldp hj) (fun _ => rfl) c |>.trans (cacheCrldp_crldp c)

/-- `X509_check_akid` reads of the issuer's cache only `skid`. -/
theorem X509_check_akid_congr {a b : Cache} (h : a.skid = b.skid) (akid : Option AuthorityKeyId) :
    X509_check_akid env ⟨cert, a⟩ akid = X509_check_akid env ⟨cert, b⟩ akid := by
  simp only [X509_check_akid, h]

/-- Block 8 sets `EXFLAG_SS` on a self-issued certificate whose key
    identifiers match and whose key usage allows certificate signing. -/
theorem cacheSelfSigned_ss (c : Cache) :
    (cacheSelfSigned env cert c).ex_flags.ss =
      (c.ex_flags.ss || (decide (cert.subject = cert.issuer) &&
        decide (X509_check_akid env ⟨cert, c⟩ c.akid = env.X509_V_OK) &&
        !ku_reject c env.X509v3_KU_KEY_CERT_SIGN)) := by
  unfold cacheSelfSigned
  by_cases hs : cert.subject = cert.issuer
  · rw [if_pos hs]
    show (if (decide (X509_check_akid env ⟨cert, c⟩ c.akid = env.X509_V_OK) &&
        !ku_reject c env.X509v3_KU_KEY_CERT_SIGN) = true then
        (c.modifyFlags fun f => { f with si := true }).modifyFlags fun f => { f with ss := true }
      else c.modifyFlags fun f => { f with si := true }).ex_flags.ss = _
    split_ifs with h <;> simp_all
  · simp [hs]

/-- Block 8 sets `EXFLAG_SI` on a self-issued certificate. -/
theorem cacheSelfSigned_si (c : Cache) :
    (cacheSelfSigned env cert c).ex_flags.si = (c.ex_flags.si || decide (cert.subject = cert.issuer)) := by
  unfold cacheSelfSigned
  by_cases hs : cert.subject = cert.issuer
  · rw [if_pos hs]
    dsimp only
    split_ifs <;> simp [Cache.modifyFlags, hs]
  · simp [hs]

theorem computedCache_si (c : Cache) :
    (computedCache env cert c).ex_flags.si = (c.ex_flags.si || decide (cert.subject = cert.issuer)) :=
  (computedCache_field env cert (·.ex_flags.si) (f := cacheSelfSigned env cert) rfl
    (fun c c' h => by dsimp only at h ⊢; rw [cacheSelfSigned_si, cacheSelfSigned_si, h])
    (fun _ hj _ _ h => h.si hj) (fun _ => rfl) c).trans (cacheSelfSigned_si c)

/-- `EXFLAG_SS`: block 8 reads the key identifiers and the key usage, which
    the later blocks keep, so its test can be read on the computed cache. -/
theorem computedCache_ss (c : Cache) :
    (computedCache env cert c).ex_flags.ss =
      (c.ex_flags.ss || (decide (cert.subject = cert.issuer) &&
        decide (X509_check_akid env ⟨cert, computedCache env cert c⟩ (computedCache env cert c).akid =
          env.X509_V_OK) &&
        !ku_reject (computedCache env cert c) env.X509v3_KU_KEY_CERT_SIGN)) := by
  have hskid : (computedCache env cert c).skid = (runBlocks env cert 8 c).skid :=
    computedCache_keep env cert (·.skid) (fun _ hj _ _ h => h.skid (by omega)) (fun _ => rfl) c
  have hakid : (computedCache env cert c).akid = (runBlocks env cert 8 c).akid :=
    computedCache_keep env cert (·.akid) (fun _ hj _ _ h => h.akid (by omega)) (fun _ => rfl) c
  have hku : ((computedCache env cert c).ex_flags.kusage, (computedCache env cert c).ex_kusage) =
      ((runBlocks env cert 8 c).ex_flags.kusage, (runBlocks env cert 8 c).ex_kusage) :=
    computedCache_keep env cert (fun c => (c.ex_flags.kusage, c.ex_kusage))
      (fun _ hj _ _ h => h.ku (by omega)) (fun _ => rfl) c
  have hss : (computedCache env cert c).ex_flags.ss =
      (cacheSelfSigned env cert (runBlocks env cert 8 c)).ex_flags.ss := by
    rw [computedCache_keep env cert (·.ex_flags.ss) (i := 9) (fun _ hj _ _ h => h.ss (by omega))
      (fun _ => rfl), runBlocks_succ env cert (f := cacheSelfSigned env cert) rfl]
  have hss0 : (runBlocks env cert 8 c).ex_flags.ss = c.ex_flags.ss :=
    runBlocks_keep env cert (·.ex_flags.ss) (fun _ hj _ _ h => h.ss (by omega)) c
  have hrej : ku_reject (computedCache env cert c) env.X509v3_KU_KEY_CERT_SIGN =
      ku_reject (runBlocks env cert 8 c) env.X509v3_KU_KEY_CERT_SIGN := by
    simp only [ku_reject, Prod.mk.inj hku]
  rw [hss, cacheSelfSigned_ss, hss0, hrej, X509_check_akid_congr hskid, hakid]

/-! ## Section 3: Bits and bytes -/

theorem UInt32.or_toNat (a b : UInt32) : (a ||| b).toNat = a.toNat ||| b.toNat :=
  BitVec.toNat_or ..

/-- `data[0] | data[1] << 8` is the two bytes read little-endian. -/
theorem toUInt32_or_shiftLeft_toNat (b0 b1 : UInt8) :
    (b0.toUInt32 ||| b1.toUInt32 <<< 8).toNat = b0.toNat + 256 * b1.toNat := by
  have h0 : b0.toNat < 2 ^ 8 := b0.toBitVec.isLt
  have h1 : b1.toNat < 2 ^ 8 := b1.toBitVec.isLt
  have hshift : (b1.toUInt32 <<< 8).toNat =
      (b1.toUInt32.toBitVec <<< ((8 : UInt32) % 32).toBitVec).toNat := rfl
  have e0 : b0.toUInt32.toNat = b0.toNat := rfl
  have e1 : b1.toUInt32.toBitVec.toNat = b1.toNat := rfl
  have e8 : ((8 : UInt32) % 32).toBitVec.toNat = 8 := rfl
  rw [UInt32.or_toNat, hshift, BitVec.shiftLeft_eq', BitVec.toNat_shiftLeft, e0, e1, e8,
    Nat.shiftLeft_eq, Nat.mod_eq_of_lt (by omega : b1.toNat * 2 ^ 8 < 2 ^ 32), Nat.or_comm,
    Nat.mul_comm, ← Nat.mul_add_lt_is_or (by omega : b0.toNat < 2 ^ 8)]
  omega

/-- The loop over the extended key usage sets the bits of the listed purposes. -/
theorem foldl_xkuBit_testBit (i : Nat) :
    ∀ (l : List Nid) (k : UInt32), (l.foldl (fun k nid => k ||| xkuBit env nid) k).toNat.testBit i =
      (k.toNat.testBit i || l.any fun nid => (xkuBit env nid).toNat.testBit i)
  | [], _ => by simp
  | nid :: l, k => by
    rw [List.foldl_cons, foldl_xkuBit_testBit i l, UInt32.or_toNat, Nat.testBit_or, List.any_cons,
      Bool.or_assoc]

/-- The bits of `UINT32_MAX`. -/
theorem allOnes_testBit (i : Nat) : Nat.testBit 0xFFFFFFFF i = decide (i < 32) :=
  Nat.testBit_two_pow_sub_one 32 i

/-- A decoded key usage: the flag, and the first two bytes read little-endian. -/
theorem cacheKeyUsage_ok {usage : List UInt8} (h : cert.keyUsage = .ok usage) (c : Cache) :
    (cacheKeyUsage cert c).ex_flags.kusage = true ∧
      (cacheKeyUsage cert c).ex_kusage.toNat = (usage.getD 0 0).toNat + 256 * (usage.getD 1 0).toNat := by
  unfold cacheKeyUsage
  rw [h]
  refine ⟨rfl, ?_⟩
  rcases usage with _ | ⟨b0, _ | ⟨b1, rest⟩⟩
  · rfl
  · show b0.toNat = b0.toNat + 256 * 0
    omega
  · exact toUInt32_or_shiftLeft_toNat b0 b1

theorem UInt32.eq_zero_iff_toNat (a : UInt32) : a = 0 ↔ a.toNat = 0 :=
  ⟨fun h => h ▸ UInt32.toNat_zero, fun h => UInt32.toNat.inj (h.trans UInt32.toNat_zero.symm)⟩

/-! ## Section 4: The getters read the certificate back -/

theorem one_ne_zero_int : (1 : Int) ≠ 0 := by decide

/-- On an object whose flags are all clear, a call that returns 1 fills
    the cache of a well-formed certificate. -/
theorem x509v3_cache_extensions_fresh {x : X509} (hfresh : x.cache.ex_flags = Cache.fresh.ex_flags)
    (hvalid : (x509v3_cache_extensions env x).1 = 1) :
    x509v3_cache_extensions env x = (1, ⟨x.cert, computedCache env x.cert x.cache⟩) ∧
      WellFormed env x.cert := by
  rw [x509v3_cache_extensions_unset env x (by rw [hfresh]; rfl)] at hvalid ⊢
  have hv : validity (computedCache env x.cert x.cache) = 1 := hvalid
  exact ⟨by rw [hv], ((computedCache_valid env x.cert x.cache).mp ((validity_eq_one _).mp hv)).2⟩

/-! The fields `check_ca` reads, on an object whose flags are all clear. -/

theorem computedCache_v1_fresh {x : X509} (hfresh : x.cache.ex_flags = Cache.fresh.ex_flags) :
    (computedCache env x.cert x.cache).ex_flags.v1 = decide (x.cert.version = env.X509_VERSION_1) := by
  have h0 : x.cache.ex_flags.v1 = false := by rw [hfresh]; rfl
  rw [computedCache_v1]
  unfold cacheVersion
  split_ifs with h <;> simp [Cache.modifyFlags, h, h0]

theorem computedCache_bc_flags_fresh {x : X509} (hfresh : x.cache.ex_flags = Cache.fresh.ex_flags) :
    ((computedCache env x.cert x.cache).ex_flags.bcons = true ↔
        ∃ bs, x.cert.basicConstraints = .ok bs) ∧
      ((computedCache env x.cert x.cache).ex_flags.ca = true ↔
        ∃ bs, x.cert.basicConstraints = .ok bs ∧ bs.ca = true) := by
  have hbc := @computedCache_bc env x.cert x.cache
  have h0 : x.cache.ex_flags.bcons = false ∧ x.cache.ex_flags.ca = false := by
    rw [hfresh]; exact ⟨rfl, rfl⟩
  rw [hbc.1, hbc.2.1]
  unfold cacheBasicConstraints
  rcases x.cert.basicConstraints with _ | _ | ⟨ca, _ | p⟩
  · simp [h0]
  · simp [Cache.setInvalid, h0]
  · cases ca <;> simp [Cache.modifyFlags, h0]
  · cases ca <;> simp [Cache.modifyFlags, Cache.setInvalid, h0, apply_ite]

theorem computedCache_bcons_ca_fresh {x : X509} (hfresh : x.cache.ex_flags = Cache.fresh.ex_flags) :
    ((computedCache env x.cert x.cache).ex_flags.bcons &&
        (computedCache env x.cert x.cache).ex_flags.ca) = true ↔
      ∃ bs, x.cert.basicConstraints = .ok bs ∧ bs.ca = true := by
  obtain ⟨hbcons, hca⟩ := computedCache_bc_flags_fresh hfresh
  rw [Bool.and_eq_true, hca]
  exact ⟨And.right, fun ⟨bs, hbs, hc⟩ => ⟨hbcons.mpr ⟨bs, hbs⟩, bs, hbs, hc⟩⟩

theorem ku_reject_fresh {x : X509} (hfresh : x.cache.ex_flags = Cache.fresh.ex_flags) (usage : UInt32) :
    ku_reject (computedCache env x.cert x.cache) usage = false ↔
      ∀ bytes, x.cert.keyUsage = .ok bytes →
        ((bytes.getD 0 0).toNat + 256 * (bytes.getD 1 0).toNat) &&& usage.toNat ≠ 0 := by
  have hku := @computedCache_ku env x.cert x.cache
  have h0 : x.cache.ex_flags.kusage = false := by rw [hfresh]; rfl
  simp only [ku_reject, usageReject, hku.1, hku.2]
  rcases hKU : x.cert.keyUsage with _ | _ | bytes
  · simp [cacheKeyUsage, hKU, h0]
  · simp [cacheKeyUsage, hKU, h0, Cache.setInvalid]
  · obtain ⟨hflag, hval⟩ := cacheKeyUsage_ok hKU x.cache
    simp [hflag, UInt32.eq_zero_iff_toNat, hval]

theorem computedCache_kusage_fresh {x : X509} (hfresh : x.cache.ex_flags = Cache.fresh.ex_flags) :
    (computedCache env x.cert x.cache).ex_flags.kusage = true ↔ ∃ bytes, x.cert.keyUsage = .ok bytes := by
  have hku := @computedCache_ku env x.cert x.cache
  have h0 : x.cache.ex_flags.kusage = false := by rw [hfresh]; rfl
  rw [hku.1]
  unfold cacheKeyUsage
  rcases x.cert.keyUsage with _ | _ | bytes <;> simp [h0, Cache.setInvalid, Cache.modifyFlags]

theorem computedCache_xkusage_fresh {x : X509} (hfresh : x.cache.ex_flags = Cache.fresh.ex_flags) :
    (computedCache env x.cert x.cache).ex_flags.xkusage = true ↔
      ∃ purposes, x.cert.extKeyUsage = .ok purposes := by
  have hxku := @computedCache_xku env x.cert x.cache
  have h0 : x.cache.ex_flags.xkusage = false := by rw [hfresh]; rfl
  rw [hxku.1]
  unfold cacheExtKeyUsage
  rcases x.cert.extKeyUsage with _ | _ | purposes <;> simp [h0, Cache.setInvalid, Cache.modifyFlags]

/-- `ns->data[0]`, or 0 for an empty bit string. -/
theorem head_toUInt32 (bytes : List UInt8) :
    (bytes.head?.map UInt8.toUInt32).getD 0 = (bytes.getD 0 0).toUInt32 := by
  cases bytes <;> rfl

/-- The Netscape cert type: the flag, and the first byte. -/
theorem ns_fresh {x : X509} (hfresh : x.cache.ex_flags = Cache.fresh.ex_flags) :
    ((computedCache env x.cert x.cache).ex_flags.nscert = true ↔
        ∃ bytes, x.cert.nsCertType = .ok bytes) ∧
      ∀ bytes, x.cert.nsCertType = .ok bytes →
        (computedCache env x.cert x.cache).ex_nscert = (bytes.getD 0 0).toUInt32 := by
  have hns := @computedCache_ns env x.cert x.cache
  have h0 : x.cache.ex_flags.nscert = false := by rw [hfresh]; rfl
  rw [hns.1, hns.2]
  unfold cacheNsCertType
  rcases x.cert.nsCertType with _ | _ | bytes
  · simp [h0]
  · simp [Cache.setInvalid, h0]
  · simp [Cache.modifyFlags, head_toUInt32]

/-- `X509_check_issued(issuer, subject)` on two valid objects whose flags
    were all clear: the names match, the subject's authority key identifier
    matches the issuer, and the issuer's key usage allows certificate
    signing. -/
theorem X509_check_issued_fresh {issuer subject : X509}
    (hfi : issuer.cache.ex_flags = Cache.fresh.ex_flags)
    (hvi : (x509v3_cache_extensions env issuer).1 = 1)
    (hfs : subject.cache.ex_flags = Cache.fresh.ex_flags)
    (hvs : (x509v3_cache_extensions env subject).1 = 1)
    (hcodes : env.X509_V_OK ≠ env.X509_V_ERR_SUBJECT_ISSUER_MISMATCH ∧
      env.X509_V_OK ≠ env.X509_V_ERR_KEYUSAGE_NO_CERTSIGN) :
    (X509_check_issued env issuer subject).1 = env.X509_V_OK ↔
      issuer.cert.subject = subject.cert.issuer ∧
        X509_check_akid env ⟨issuer.cert, computedCache env issuer.cert issuer.cache⟩
          (computedCache env subject.cert subject.cache).akid = env.X509_V_OK ∧
        ku_reject (computedCache env issuer.cert issuer.cache) env.X509v3_KU_KEY_CERT_SIGN =
          false := by
  obtain ⟨h1, h3⟩ := hcodes
  unfold X509_check_issued
  simp only [(x509v3_cache_extensions_fresh hfi hvi).1, (x509v3_cache_extensions_fresh hfs hvs).1,
    one_ne_zero_int, if_false]
  rcases (computedCache env subject.cert subject.cache).akid with _ | akid <;>
    split_ifs <;> simp_all [h1.symm, h3.symm, X509_check_akid_none]

section Fresh

variable {x : X509} (hfresh : x.cache.ex_flags = Cache.fresh.ex_flags)
  (hvalid : (x509v3_cache_extensions env x).1 = 1)
include hfresh hvalid

theorem X509_get0_fresh :
    (X509_get0_subject_key_id env x).1 = x.cert.subjectKeyId.toOption ∧
      (X509_get0_authority_key_id env x).1 = x.cert.authorityKeyId.toOption.bind (·.keyid) ∧
      (X509_get0_authority_issuer env x).1 = x.cert.authorityKeyId.toOption.bind (·.issuer) ∧
      (X509_get0_authority_serial env x).1 = x.cert.authorityKeyId.toOption.bind (·.serial) := by
  simp only [X509_get0_subject_key_id, X509_get0_authority_key_id, X509_get0_authority_issuer,
    X509_get0_authority_serial, (x509v3_cache_extensions_fresh hfresh hvalid).1, one_ne_zero_int,
    if_false, computedCache_skid, computedCache_akid, and_self]

theorem X509_get_pathlen_fresh :
    (X509_get_pathlen env x).1 =
      match x.cert.basicConstraints with
      | .ok ⟨_, some p⟩ => env.ASN1_INTEGER_get p
      | _ => -1 := by
  obtain ⟨hx, hwf⟩ := x509v3_cache_extensions_fresh hfresh hvalid
  have hbc := @computedCache_bc env x.cert x.cache
  have h0 : x.cache.ex_flags.bcons = false := by rw [hfresh]; rfl
  simp only [X509_get_pathlen, hx, hbc.1, hbc.2.2]
  unfold cacheBasicConstraints
  rcases hBC : x.cert.basicConstraints with _ | _ | ⟨ca, _ | p⟩
  · simp [h0]
  · exact absurd hBC hwf.basicConstraints
  · simp [Cache.modifyFlags]
  · obtain ⟨hp, rfl⟩ := hwf.pathlen _ hBC p rfl
    have : ¬ p < 0 := by omega
    simp [Cache.modifyFlags, this]

theorem X509_get_key_usage_fresh :
    (X509_get_key_usage env x).1.toNat =
      match x.cert.keyUsage with
      | .ok usage => (usage.getD 0 0).toNat + 256 * (usage.getD 1 0).toNat
      | _ => 0xFFFFFFFF := by
  obtain ⟨hx, hwf⟩ := x509v3_cache_extensions_fresh hfresh hvalid
  have hku := @computedCache_ku env x.cert x.cache
  have h0 : x.cache.ex_flags.kusage = false := by rw [hfresh]; rfl
  simp only [X509_get_key_usage, hx, hku.1, hku.2, one_ne_zero_int, if_false]
  rcases hKU : x.cert.keyUsage with _ | _ | usage
  · simp [cacheKeyUsage, hKU, h0]
  · exact absurd hKU hwf.keyUsage
  · obtain ⟨hflag, hval⟩ := cacheKeyUsage_ok hKU x.cache
    simp [hflag, hval]

theorem X509_get_extended_key_usage_fresh (i : Nat) :
    (X509_get_extended_key_usage env x).1.toNat.testBit i =
      match x.cert.extKeyUsage with
      | .ok purposes => purposes.any fun nid => (xkuBit env nid).toNat.testBit i
      | _ => decide (i < 32) := by
  obtain ⟨hx, hwf⟩ := x509v3_cache_extensions_fresh hfresh hvalid
  have hxku := @computedCache_xku env x.cert x.cache
  have h0 : x.cache.ex_flags.xkusage = false := by rw [hfresh]; rfl
  simp only [X509_get_extended_key_usage, hx, hxku.1, hxku.2, one_ne_zero_int, if_false]
  unfold cacheExtKeyUsage
  rcases hEKU : x.cert.extKeyUsage with _ | _ | purposes
  · simp [h0, allOnes_testBit]
  · exact absurd hEKU hwf.extKeyUsage
  · simp [Cache.modifyFlags, foldl_xkuBit_testBit]

/-- `X509_check_issued(x, x)` on a valid object: the names match, the key
    identifiers match, and the key usage allows certificate signing. -/
theorem X509_check_issued_self
    (hcodes : env.X509_V_OK ≠ env.X509_V_ERR_SUBJECT_ISSUER_MISMATCH ∧
      env.X509_V_OK ≠ env.X509_V_ERR_KEYUSAGE_NO_CERTSIGN) :
    (X509_check_issued env x x).1 = env.X509_V_OK ↔
      x.cert.subject = x.cert.issuer ∧
        X509_check_akid env ⟨x.cert, computedCache env x.cert x.cache⟩
          (computedCache env x.cert x.cache).akid = env.X509_V_OK ∧
        ku_reject (computedCache env x.cert x.cache) env.X509v3_KU_KEY_CERT_SIGN = false :=
  X509_check_issued_fresh hfresh hvalid hfresh hvalid hcodes

/-- The computed `EXFLAG_SS` against `X509_check_issued(x, x)`. -/
theorem computedCache_ss_fresh
    (hcodes : env.X509_V_OK ≠ env.X509_V_ERR_SUBJECT_ISSUER_MISMATCH ∧
      env.X509_V_OK ≠ env.X509_V_ERR_KEYUSAGE_NO_CERTSIGN) :
    (computedCache env x.cert x.cache).ex_flags.ss = true ↔
      (X509_check_issued env x x).1 = env.X509_V_OK := by
  have h0 : x.cache.ex_flags.ss = false := by rw [hfresh]; rfl
  rw [X509_check_issued_self hfresh hvalid hcodes]
  simp [computedCache_ss, h0, and_assoc]

end Fresh

variable (env)

/-- **The getters read the certificate back**: on an object whose flags
    are all clear (a new `X509`), once `x509v3_cache_extensions` returns 1,
    the key identifiers are those of the certificate, the path length is
    its `pathLenConstraint` through `ASN1_INTEGER_get` (-1 without one), the
    key usage is the first two bytes of the bit string read little-endian
    (all ones without the extension), and bit `i` of the extended key usage
    is set iff a listed purpose has it (all 32 bits without the extension). -/
theorem X509_getters_read_back (x : X509) (hfresh : x.cache.ex_flags = Cache.fresh.ex_flags)
    (hvalid : (x509v3_cache_extensions env x).1 = 1) :
    (X509_get0_subject_key_id env x).1 = x.cert.subjectKeyId.toOption ∧
      (X509_get0_authority_key_id env x).1 = x.cert.authorityKeyId.toOption.bind (·.keyid) ∧
      (X509_get0_authority_issuer env x).1 = x.cert.authorityKeyId.toOption.bind (·.issuer) ∧
      (X509_get0_authority_serial env x).1 = x.cert.authorityKeyId.toOption.bind (·.serial) ∧
      (X509_get_pathlen env x).1 =
        (match x.cert.basicConstraints with
          | .ok ⟨_, some p⟩ => env.ASN1_INTEGER_get p
          | _ => -1) ∧
      (X509_get_key_usage env x).1.toNat =
        (match x.cert.keyUsage with
          | .ok usage => (usage.getD 0 0).toNat + 256 * (usage.getD 1 0).toNat
          | _ => 0xFFFFFFFF) ∧
      ∀ i, (X509_get_extended_key_usage env x).1.toNat.testBit i =
        match x.cert.extKeyUsage with
        | .ok purposes => purposes.any fun nid => (xkuBit env nid).toNat.testBit i
        | _ => decide (i < 32) :=
  ⟨(X509_get0_fresh hfresh hvalid).1, (X509_get0_fresh hfresh hvalid).2.1,
    (X509_get0_fresh hfresh hvalid).2.2.1, (X509_get0_fresh hfresh hvalid).2.2.2,
    X509_get_pathlen_fresh hfresh hvalid, X509_get_key_usage_fresh hfresh hvalid,
    X509_get_extended_key_usage_fresh hfresh hvalid⟩

/-- The sample CA certificate in a new object. -/
def sampleCa : X509 := ⟨sampleCaCert, Cache.fresh⟩

theorem sampleCa_valid : (x509v3_cache_extensions sampleEnv sampleCa).1 = 1 := by decide

/-- The getters on the sample CA certificate. -/
theorem X509_getters_read_back_sampleCa :
    sampleCa.cache.ex_flags = Cache.fresh.ex_flags ∧
      (x509v3_cache_extensions sampleEnv sampleCa).1 = 1 ∧
      (X509_get0_subject_key_id sampleEnv sampleCa).1 = sampleCa.cert.subjectKeyId.toOption ∧
      (X509_get0_authority_key_id sampleEnv sampleCa).1 =
        sampleCa.cert.authorityKeyId.toOption.bind (·.keyid) ∧
      (X509_get0_authority_issuer sampleEnv sampleCa).1 =
        sampleCa.cert.authorityKeyId.toOption.bind (·.issuer) ∧
      (X509_get0_authority_serial sampleEnv sampleCa).1 =
        sampleCa.cert.authorityKeyId.toOption.bind (·.serial) ∧
      (X509_get_pathlen sampleEnv sampleCa).1 =
        (match sampleCa.cert.basicConstraints with
          | .ok ⟨_, some p⟩ => sampleEnv.ASN1_INTEGER_get p
          | _ => -1) ∧
      (X509_get_key_usage sampleEnv sampleCa).1.toNat =
        (match sampleCa.cert.keyUsage with
          | .ok usage => (usage.getD 0 0).toNat + 256 * (usage.getD 1 0).toNat
          | _ => 0xFFFFFFFF) ∧
      ∀ i, (X509_get_extended_key_usage sampleEnv sampleCa).1.toNat.testBit i =
        match sampleCa.cert.extKeyUsage with
        | .ok purposes => purposes.any fun nid => (xkuBit sampleEnv nid).toNat.testBit i
        | _ => decide (i < 32) :=
  ⟨rfl, sampleCa_valid, X509_getters_read_back sampleEnv sampleCa rfl sampleCa_valid⟩

/-! ## Section 5: `EXFLAG_SS` and `X509_check_ca` -/

/-- **`EXFLAG_SS` is `X509_check_issued(x, x)`**: on an object whose flags
    are all clear, once `x509v3_cache_extensions` returns 1, the flag it
    computed from the cache after seven blocks is set iff
    `X509_check_issued(x, x)` returns `X509_V_OK`, when that code differs
    from the two errors the check returns itself. -/
theorem x509v3_cache_extensions_ss_iff (x : X509) (hfresh : x.cache.ex_flags = Cache.fresh.ex_flags)
    (hvalid : (x509v3_cache_extensions env x).1 = 1)
    (hcodes : env.X509_V_OK ≠ env.X509_V_ERR_SUBJECT_ISSUER_MISMATCH ∧
      env.X509_V_OK ≠ env.X509_V_ERR_KEYUSAGE_NO_CERTSIGN) :
    (x509v3_cache_extensions env x).2.cache.ex_flags.ss = true ↔
      (X509_check_issued env x x).1 = env.X509_V_OK := by
  rw [(x509v3_cache_extensions_fresh hfresh hvalid).1]
  exact computedCache_ss_fresh hfresh hvalid hcodes

/-- The sample CA certificate is not self-issued: neither test holds. -/
theorem x509v3_cache_extensions_ss_iff_sampleCa :
    sampleCa.cache.ex_flags = Cache.fresh.ex_flags ∧
      (x509v3_cache_extensions sampleEnv sampleCa).1 = 1 ∧
      (sampleEnv.X509_V_OK ≠ sampleEnv.X509_V_ERR_SUBJECT_ISSUER_MISMATCH ∧
        sampleEnv.X509_V_OK ≠ sampleEnv.X509_V_ERR_KEYUSAGE_NO_CERTSIGN) ∧
      ((x509v3_cache_extensions sampleEnv sampleCa).2.cache.ex_flags.ss = true ↔
        (X509_check_issued sampleEnv sampleCa sampleCa).1 = sampleEnv.X509_V_OK) :=
  have hcodes : sampleEnv.X509_V_OK ≠ sampleEnv.X509_V_ERR_SUBJECT_ISSUER_MISMATCH ∧
      sampleEnv.X509_V_OK ≠ sampleEnv.X509_V_ERR_KEYUSAGE_NO_CERTSIGN := by decide
  ⟨rfl, sampleCa_valid, hcodes, x509v3_cache_extensions_ss_iff sampleEnv sampleCa rfl sampleCa_valid hcodes⟩

/-- **What `X509_check_ca` accepts**: on an object whose flags are all
    clear, when `X509_V_OK` differs from the two errors `X509_check_issued`
    returns itself, `X509_check_ca` returns 1 iff the cache is valid, the
    key usage, if present, has the certificate-signing bit among its first
    two bytes, and the certificate is a self-signed version 1 certificate
    (`X509_check_issued(x, x)` succeeds) or has basic constraints with `cA`. -/
theorem X509_check_ca_iff (x : X509) (hfresh : x.cache.ex_flags = Cache.fresh.ex_flags)
    (hcodes : env.X509_V_OK ≠ env.X509_V_ERR_SUBJECT_ISSUER_MISMATCH ∧
      env.X509_V_OK ≠ env.X509_V_ERR_KEYUSAGE_NO_CERTSIGN) :
    (X509_check_ca env x).1 = 1 ↔
      (x509v3_cache_extensions env x).1 = 1 ∧
        (∀ bytes, x.cert.keyUsage = .ok bytes →
          ((bytes.getD 0 0).toNat + 256 * (bytes.getD 1 0).toNat) &&&
            env.X509v3_KU_KEY_CERT_SIGN.toNat ≠ 0) ∧
        ((x.cert.version = env.X509_VERSION_1 ∧ (X509_check_issued env x x).1 = env.X509_V_OK) ∨
          ∃ bs, x.cert.basicConstraints = .ok bs ∧ bs.ca = true) := by
  by_cases hvalid : (x509v3_cache_extensions env x).1 = 1
  · simp only [X509_check_ca, (x509v3_cache_extensions_fresh hfresh hvalid).1, one_ne_zero_int,
      if_false, check_ca_eq_one, ku_reject_fresh hfresh, Bool.and_eq_true,
      computedCache_v1_fresh hfresh, decide_eq_true_eq, computedCache_ss_fresh hfresh hvalid hcodes,
      computedCache_bcons_ca_fresh hfresh, hvalid, true_and]
  · have h0 : (x509v3_cache_extensions env x).1 = 0 := by
      by_contra h
      exact hvalid ((x509v3_cache_extensions_ne_zero env x).mp h)
    simp [X509_check_ca, h0, hvalid]

/-- The sample CA certificate passes `X509_check_ca` by its basic constraints. -/
theorem X509_check_ca_iff_sampleCa :
    sampleCa.cache.ex_flags = Cache.fresh.ex_flags ∧
      (sampleEnv.X509_V_OK ≠ sampleEnv.X509_V_ERR_SUBJECT_ISSUER_MISMATCH ∧
        sampleEnv.X509_V_OK ≠ sampleEnv.X509_V_ERR_KEYUSAGE_NO_CERTSIGN) ∧
      ((X509_check_ca sampleEnv sampleCa).1 = 1 ↔
        (x509v3_cache_extensions sampleEnv sampleCa).1 = 1 ∧
          (∀ bytes, sampleCa.cert.keyUsage = .ok bytes →
            ((bytes.getD 0 0).toNat + 256 * (bytes.getD 1 0).toNat) &&&
              sampleEnv.X509v3_KU_KEY_CERT_SIGN.toNat ≠ 0) ∧
          ((sampleCa.cert.version = sampleEnv.X509_VERSION_1 ∧
              (X509_check_issued sampleEnv sampleCa sampleCa).1 = sampleEnv.X509_V_OK) ∨
            ∃ bs, sampleCa.cert.basicConstraints = .ok bs ∧ bs.ca = true)) :=
  have hcodes : sampleEnv.X509_V_OK ≠ sampleEnv.X509_V_ERR_SUBJECT_ISSUER_MISMATCH ∧
      sampleEnv.X509_V_OK ≠ sampleEnv.X509_V_ERR_KEYUSAGE_NO_CERTSIGN := by decide
  ⟨rfl, hcodes, X509_check_ca_iff sampleEnv sampleCa rfl hcodes⟩

/-! ## Section 6: The cached names and distribution points -/

/-- When every point can be set up, the loop of `setup_crldp` sets up each. -/
theorem setupDps_map {dps : List DistPoint}
    (h : ∀ dp ∈ dps, (setup_dp env cert dp).isSome = true) :
    (setupDps env cert dps).1 = dps.map fun dp => (setup_dp env cert dp).getD dp := by
  induction dps with
  | nil => rfl
  | cons dp dps ih =>
    obtain ⟨dp', hdp⟩ := Option.isSome_iff_exists.mp (h dp (List.mem_cons_self _ _))
    simp [setupDps, hdp, ih fun d hd => h d (List.mem_cons_of_mem _ hd)]

/-- **The cached names read the certificate back**: on an object whose
    cache is not filled, once `x509v3_cache_extensions` returns 1, `altname`
    and `nc` hold the decoded subject alternative names and name constraints
    (`NULL` without the extension), and `crldp` holds every CRL distribution
    point as `setup_dp` completes it: a name relative to the issuer gets the
    first directory name of its `CRLissuer`, or else the certificate's
    issuer. -/
theorem x509v3_cache_extensions_names (x : X509) (hunset : x.cache.ex_flags.set = false)
    (hvalid : (x509v3_cache_extensions env x).1 = 1) :
    (x509v3_cache_extensions env x).2.cache.altname = x.cert.subjectAltName.toOption ∧
      (x509v3_cache_extensions env x).2.cache.nc = x.cert.nameConstraints.toOption ∧
      (x509v3_cache_extensions env x).2.cache.crldp =
        x.cert.crlDistributionPoints.toOption.map
          (List.map fun dp => (setup_dp env x.cert dp).getD dp) := by
  rw [x509v3_cache_extensions_unset env x hunset] at hvalid ⊢
  have hwf := ((computedCache_valid env x.cert x.cache).mp ((validity_eq_one _).mp hvalid)).2
  refine ⟨computedCache_altname x.cache, computedCache_nc x.cache, ?_⟩
  rw [computedCache_crldp]
  rcases hcrl : x.cert.crlDistributionPoints with _ | _ | dps
  · rfl
  · exact absurd hcrl hwf.crlDistributionPoints
  · exact congrArg some (setupDps_map env (hwf.distPoints dps hcrl))

/-- The names of the sample CA certificate, which has none. -/
theorem x509v3_cache_extensions_names_sampleCa :
    sampleCa.cache.ex_flags.set = false ∧ (x509v3_cache_extensions sampleEnv sampleCa).1 = 1 ∧
      (x509v3_cache_extensions sampleEnv sampleCa).2.cache.altname =
          sampleCa.cert.subjectAltName.toOption ∧
        (x509v3_cache_extensions sampleEnv sampleCa).2.cache.nc =
          sampleCa.cert.nameConstraints.toOption ∧
        (x509v3_cache_extensions sampleEnv sampleCa).2.cache.crldp =
          sampleCa.cert.crlDistributionPoints.toOption.map
            (List.map fun dp => (setup_dp sampleEnv sampleCa.cert dp).getD dp) :=
  ⟨rfl, sampleCa_valid, x509v3_cache_extensions_names sampleEnv sampleCa rfl sampleCa_valid⟩

/-! ## Section 7: The flags -/

/-- **The flags read the certificate back**: on an object whose flags are
    all clear, once `x509v3_cache_extensions` returns 1,
    `X509_get_extension_flags` reports basic constraints, key usage,
    extended key usage and Netscape cert type exactly when the certificate
    has them, `EXFLAG_CA` exactly for basic constraints with `cA`,
    `EXFLAG_V1` for a version 1 certificate, `EXFLAG_SI` for equal subject
    and issuer, `EXFLAG_SS` exactly when `X509_check_issued(x, x)` succeeds
    (when `X509_V_OK` differs from its two errors), `EXFLAG_CRITICAL`
    exactly for a critical extension of a type the code does not support,
    `EXFLAG_SET`, and not `EXFLAG_INVALID`. -/
theorem X509_get_extension_flags_read_back (x : X509)
    (hfresh : x.cache.ex_flags = Cache.fresh.ex_flags)
    (hvalid : (x509v3_cache_extensions env x).1 = 1)
    (hcodes : env.X509_V_OK ≠ env.X509_V_ERR_SUBJECT_ISSUER_MISMATCH ∧
      env.X509_V_OK ≠ env.X509_V_ERR_KEYUSAGE_NO_CERTSIGN) :
    ((X509_get_extension_flags env x).1.bcons = true ↔ ∃ bs, x.cert.basicConstraints = .ok bs) ∧
      ((X509_get_extension_flags env x).1.ca = true ↔
        ∃ bs, x.cert.basicConstraints = .ok bs ∧ bs.ca = true) ∧
      ((X509_get_extension_flags env x).1.kusage = true ↔ ∃ bytes, x.cert.keyUsage = .ok bytes) ∧
      ((X509_get_extension_flags env x).1.xkusage = true ↔
        ∃ purposes, x.cert.extKeyUsage = .ok purposes) ∧
      ((X509_get_extension_flags env x).1.nscert = true ↔ ∃ bytes, x.cert.nsCertType = .ok bytes) ∧
      ((X509_get_extension_flags env x).1.v1 = true ↔ x.cert.version = env.X509_VERSION_1) ∧
      ((X509_get_extension_flags env x).1.si = true ↔ x.cert.subject = x.cert.issuer) ∧
      ((X509_get_extension_flags env x).1.ss = true ↔
        (X509_check_issued env x x).1 = env.X509_V_OK) ∧
      ((X509_get_extension_flags env x).1.critical = true ↔
        ∃ ex ∈ x.cert.extensions, ex.critical = true ∧ X509_supported_extension ex = false) ∧
      (X509_get_extension_flags env x).1.invalid = false ∧
      (X509_get_extension_flags env x).1.set = true := by
  obtain ⟨hx, -⟩ := x509v3_cache_extensions_fresh hfresh hvalid
  have hinvalid : (computedCache env x.cert x.cache).ex_flags.invalid = false :=
    (validity_eq_one _).mp (by rwa [x509v3_cache_extensions_unset env x (by rw [hfresh]; rfl)] at hvalid)
  have h0 : x.cache.ex_flags.si = false ∧ x.cache.ex_flags.critical = false := by
    rw [hfresh]; exact ⟨rfl, rfl⟩
  simp only [X509_get_extension_flags, hx]
  exact ⟨(computedCache_bc_flags_fresh hfresh).1, (computedCache_bc_flags_fresh hfresh).2,
    computedCache_kusage_fresh hfresh, computedCache_xkusage_fresh hfresh, (ns_fresh hfresh).1,
    by rw [computedCache_v1_fresh hfresh, decide_eq_true_iff],
    by rw [computedCache_si, h0.1, Bool.false_or, decide_eq_true_iff],
    computedCache_ss_fresh hfresh hvalid hcodes,
    by rw [computedCache_critical, h0.2, Bool.false_or, criticalUnsupported_iff],
    hinvalid, computedCache_set env x.cert x.cache⟩

/-- The flags of the sample CA certificate. -/
theorem X509_get_extension_flags_read_back_sampleCa :
    sampleCa.cache.ex_flags = Cache.fresh.ex_flags ∧
      (x509v3_cache_extensions sampleEnv sampleCa).1 = 1 ∧
      (sampleEnv.X509_V_OK ≠ sampleEnv.X509_V_ERR_SUBJECT_ISSUER_MISMATCH ∧
        sampleEnv.X509_V_OK ≠ sampleEnv.X509_V_ERR_KEYUSAGE_NO_CERTSIGN) ∧
      ((X509_get_extension_flags sampleEnv sampleCa).1.bcons = true ↔
        ∃ bs, sampleCa.cert.basicConstraints = .ok bs) ∧
      ((X509_get_extension_flags sampleEnv sampleCa).1.ca = true ↔
        ∃ bs, sampleCa.cert.basicConstraints = .ok bs ∧ bs.ca = true) ∧
      ((X509_get_extension_flags sampleEnv sampleCa).1.kusage = true ↔
        ∃ bytes, sampleCa.cert.keyUsage = .ok bytes) ∧
      ((X509_get_extension_flags sampleEnv sampleCa).1.xkusage = true ↔
        ∃ purposes, sampleCa.cert.extKeyUsage = .ok purposes) ∧
      ((X509_get_extension_flags sampleEnv sampleCa).1.nscert = true ↔
        ∃ bytes, sampleCa.cert.nsCertType = .ok bytes) ∧
      ((X509_get_extension_flags sampleEnv sampleCa).1.v1 = true ↔
        sampleCa.cert.version = sampleEnv.X509_VERSION_1) ∧
      ((X509_get_extension_flags sampleEnv sampleCa).1.si = true ↔
        sampleCa.cert.subject = sampleCa.cert.issuer) ∧
      ((X509_get_extension_flags sampleEnv sampleCa).1.ss = true ↔
        (X509_check_issued sampleEnv sampleCa sampleCa).1 = sampleEnv.X509_V_OK) ∧
      ((X509_get_extension_flags sampleEnv sampleCa).1.critical = true ↔
        ∃ ex ∈ sampleCa.cert.extensions, ex.critical = true ∧ X509_supported_extension ex = false) ∧
      (X509_get_extension_flags sampleEnv sampleCa).1.invalid = false ∧
      (X509_get_extension_flags sampleEnv sampleCa).1.set = true :=
  have hcodes : sampleEnv.X509_V_OK ≠ sampleEnv.X509_V_ERR_SUBJECT_ISSUER_MISMATCH ∧
      sampleEnv.X509_V_OK ≠ sampleEnv.X509_V_ERR_KEYUSAGE_NO_CERTSIGN := by decide
  ⟨rfl, sampleCa_valid, hcodes,
    X509_get_extension_flags_read_back sampleEnv sampleCa rfl sampleCa_valid hcodes⟩

end X509v3
