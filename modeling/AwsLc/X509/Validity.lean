import AwsLc.X509.Cache

/-! # What the return value of `x509v3_cache_extensions` certifies

    `x509v3_cache_extensions` returns 1 when `EXFLAG_INVALID` is clear at
    the end. The blocks only ever set the flag (`|=`), and seven of the
    thirteen do so on a fault of the certificate: no digest, an extension
    that is present but cannot be decoded, a path length on a non-CA or a
    negative one, a CRL distribution point whose name cannot be completed.
    `WellFormed` states these faults over the certificate alone, and the
    main theorem says that, from a cache whose `EXFLAG_SET` is clear, the
    call returns 1 exactly when the cache was not already marked invalid and
    the certificate is well formed.

    The same composition gives `EXFLAG_CRITICAL`: it is set exactly when the
    certificate has a critical extension of a type the code does not
    support.

    Two loops of the function stop early: the one of `setup_crldp` at the
    first distribution point it cannot complete, and the scan for critical
    extensions at the first one it does not support. Each is proved equal
    to a statement over the whole list, with no stopping rule.
-/

namespace X509v3

variable (env : X509Env)

/-! ## Section 1: The specification -/

/-- A certificate in which `x509v3_cache_extensions` finds no fault. -/
structure WellFormed (cert : Cert) : Prop where
  digest : cert.digest.isSome = true
  basicConstraints : cert.basicConstraints ≠ .invalid
  /-- A path length is non-negative and only on a CA. -/
  pathlen : ∀ bs, cert.basicConstraints = .ok bs → ∀ p, bs.pathlen = some p → 0 ≤ p ∧ bs.ca = true
  keyUsage : cert.keyUsage ≠ .invalid
  extKeyUsage : cert.extKeyUsage ≠ .invalid
  nsCertType : cert.nsCertType ≠ .invalid
  subjectKeyId : cert.subjectKeyId ≠ .invalid
  authorityKeyId : cert.authorityKeyId ≠ .invalid
  subjectAltName : cert.subjectAltName ≠ .invalid
  nameConstraints : cert.nameConstraints ≠ .invalid
  crlDistributionPoints : cert.crlDistributionPoints ≠ .invalid
  /-- Every distribution point can be set up. -/
  distPoints : ∀ dps, cert.crlDistributionPoints = .ok dps →
    ∀ dp ∈ dps, (setup_dp env cert dp).isSome = true

/-! ## Section 2: The two loops -/

/-- The loop of `setup_crldp` succeeds iff every point can be set up. -/
theorem setupDps_ok (cert : Cert) :
    ∀ dps, (setupDps env cert dps).2 = true ↔ ∀ dp ∈ dps, (setup_dp env cert dp).isSome = true
  | [] => by simp [setupDps]
  | dp :: dps => by
    cases h : setup_dp env cert dp <;> simp [setupDps, h, setupDps_ok cert dps]

/-- The scan of lines 391-400 finds a critical extension that is not
    supported iff there is one. -/
theorem criticalUnsupported_iff :
    ∀ exs, criticalUnsupported exs = true ↔
      ∃ ex ∈ exs, ex.critical = true ∧ X509_supported_extension ex = false
  | [] => by simp [criticalUnsupported]
  | ex :: exs => by
    cases hc : ex.critical <;> cases hs : X509_supported_extension ex <;>
      simp [criticalUnsupported, hc, hs, criticalUnsupported_iff exs]

/-! ## Section 3: `EXFLAG_INVALID`, block by block -/

@[simp] theorem ExtLookup.isInvalid_eq_false {α : Type} (l : ExtLookup α) :
    l.isInvalid = false ↔ l ≠ .invalid := by
  cases l <;> simp [ExtLookup.isInvalid]

@[simp] theorem setInvalid_invalid (c : Cache) : c.setInvalid.ex_flags.invalid = true := rfl

theorem cacheDigest_valid (cert : Cert) (c : Cache) :
    (cacheDigest cert c).ex_flags.invalid = false ↔
      c.ex_flags.invalid = false ∧ cert.digest.isSome = true := by
  cases h : cert.digest <;> simp [cacheDigest, h]

theorem cacheVersion_invalid (cert : Cert) (c : Cache) :
    (cacheVersion env cert c).ex_flags.invalid = c.ex_flags.invalid := by
  unfold cacheVersion
  split_ifs <;> rfl

theorem cacheBasicConstraints_valid (cert : Cert) (c : Cache) :
    (cacheBasicConstraints env cert c).ex_flags.invalid = false ↔
      c.ex_flags.invalid = false ∧ cert.basicConstraints ≠ .invalid ∧
        ∀ bs, cert.basicConstraints = .ok bs → ∀ p, bs.pathlen = some p → 0 ≤ p ∧ bs.ca = true := by
  cases h : cert.basicConstraints with
  | ok bs =>
    rcases bs with ⟨ca, _ | p⟩
    · cases ca <;> simp [cacheBasicConstraints, h, Cache.modifyFlags]
    · by_cases hp : p < 0
      · have : ¬ 0 ≤ p := by omega
        cases ca <;> simp [cacheBasicConstraints, h, hp, this, Cache.modifyFlags]
      · have : 0 ≤ p := by omega
        cases ca <;> simp [cacheBasicConstraints, h, hp, this, Cache.modifyFlags]
  | invalid => simp [cacheBasicConstraints, h]
  | absent => simp [cacheBasicConstraints, h]

theorem cacheKeyUsage_valid (cert : Cert) (c : Cache) :
    (cacheKeyUsage cert c).ex_flags.invalid = false ↔
      c.ex_flags.invalid = false ∧ cert.keyUsage ≠ .invalid := by
  cases h : cert.keyUsage <;> simp [cacheKeyUsage, h, Cache.modifyFlags]

theorem cacheExtKeyUsage_valid (cert : Cert) (c : Cache) :
    (cacheExtKeyUsage env cert c).ex_flags.invalid = false ↔
      c.ex_flags.invalid = false ∧ cert.extKeyUsage ≠ .invalid := by
  cases h : cert.extKeyUsage <;> simp [cacheExtKeyUsage, h, Cache.modifyFlags, Cache.setInvalid]

theorem cacheNsCertType_valid (cert : Cert) (c : Cache) :
    (cacheNsCertType cert c).ex_flags.invalid = false ↔
      c.ex_flags.invalid = false ∧ cert.nsCertType ≠ .invalid := by
  cases h : cert.nsCertType <;> simp [cacheNsCertType, h, Cache.modifyFlags]

theorem storeExt_valid {α : Type} (l : ExtLookup α) (store : Option α → Cache → Cache)
    (hstore : ∀ v c, (store v c).ex_flags = c.ex_flags) (c : Cache) :
    (storeExt l store c).ex_flags.invalid = false ↔ c.ex_flags.invalid = false ∧ l ≠ .invalid := by
  unfold storeExt
  cases h : l.isInvalid
  · simp_all
  · simp_all [ExtLookup.isInvalid]
    cases l <;> simp_all [ExtLookup.isInvalid]

theorem cacheSkid_valid (cert : Cert) (c : Cache) :
    (cacheSkid cert c).ex_flags.invalid = false ↔
      c.ex_flags.invalid = false ∧ cert.subjectKeyId ≠ .invalid := by
  unfold cacheSkid
  exact storeExt_valid _ _ (fun _ _ => by rfl) c

theorem cacheAkid_valid (cert : Cert) (c : Cache) :
    (cacheAkid cert c).ex_flags.invalid = false ↔
      c.ex_flags.invalid = false ∧ cert.authorityKeyId ≠ .invalid := by
  unfold cacheAkid
  exact storeExt_valid _ _ (fun _ _ => by rfl) c

theorem cacheAltname_valid (cert : Cert) (c : Cache) :
    (cacheAltname cert c).ex_flags.invalid = false ↔
      c.ex_flags.invalid = false ∧ cert.subjectAltName ≠ .invalid := by
  unfold cacheAltname
  exact storeExt_valid _ _ (fun _ _ => by rfl) c

theorem cacheNameConstraints_valid (cert : Cert) (c : Cache) :
    (cacheNameConstraints cert c).ex_flags.invalid = false ↔
      c.ex_flags.invalid = false ∧ cert.nameConstraints ≠ .invalid := by
  unfold cacheNameConstraints
  exact storeExt_valid _ _ (fun _ _ => by rfl) c

theorem cacheSelfSigned_invalid (cert : Cert) (c : Cache) :
    (cacheSelfSigned env cert c).ex_flags.invalid = c.ex_flags.invalid := by
  unfold cacheSelfSigned
  dsimp only
  split_ifs <;> rfl

theorem cacheCrldp_valid (cert : Cert) (c : Cache) :
    (cacheCrldp env cert c).ex_flags.invalid = false ↔
      c.ex_flags.invalid = false ∧ cert.crlDistributionPoints ≠ .invalid ∧
        ∀ dps, cert.crlDistributionPoints = .ok dps →
          ∀ dp ∈ dps, (setup_dp env cert dp).isSome = true := by
  cases h : cert.crlDistributionPoints with
  | ok dps =>
    cases hs : (setupDps env cert dps).2 <;>
      simp_all [cacheCrldp, ← setupDps_ok env cert dps]
  | invalid => simp [cacheCrldp, h]
  | absent => simp [cacheCrldp, h]

theorem cacheCritical_invalid (cert : Cert) (c : Cache) :
    (cacheCritical cert c).ex_flags.invalid = c.ex_flags.invalid := by
  unfold cacheCritical
  split_ifs <;> rfl

/-- The thirteen blocks, as one composition. -/
theorem computedCache_eq_comp (cert : Cert) (c : Cache) :
    computedCache env cert c =
      (cacheCritical cert <| cacheCrldp env cert <| cacheNameConstraints cert <|
        cacheAltname cert <| cacheSelfSigned env cert <| cacheAkid cert <| cacheSkid cert <|
        cacheNsCertType cert <| cacheExtKeyUsage env cert <| cacheKeyUsage cert <|
        cacheBasicConstraints env cert <| cacheVersion env cert <| cacheDigest cert c).markSet :=
  rfl

/-- `EXFLAG_INVALID` is clear after the computation iff it was clear before
    and the certificate is well formed. -/
theorem computedCache_valid (cert : Cert) (c : Cache) :
    (computedCache env cert c).ex_flags.invalid = false ↔
      c.ex_flags.invalid = false ∧ WellFormed env cert := by
  rw [computedCache_eq_comp]
  simp only [Cache.markSet, Cache.modifyFlags_ex_flags, cacheCritical_invalid, cacheCrldp_valid,
    cacheNameConstraints_valid, cacheAltname_valid, cacheAkid_valid, cacheSkid_valid,
    cacheSelfSigned_invalid, cacheNsCertType_valid,
    cacheExtKeyUsage_valid, cacheKeyUsage_valid, cacheBasicConstraints_valid,
    cacheVersion_invalid, cacheDigest_valid, and_assoc]
  constructor
  · rintro ⟨hc, hd, hb, hp, hk, hx, hn, hs, ha, halt, hnc, hcrl, hdp⟩
    exact ⟨hc, ⟨hd, hb, hp, hk, hx, hn, hs, ha, halt, hnc, hcrl, hdp⟩⟩
  · rintro ⟨hc, ⟨hd, hb, hp, hk, hx, hn, hs, ha, halt, hnc, hcrl, hdp⟩⟩
    exact ⟨hc, hd, hb, hp, hk, hx, hn, hs, ha, halt, hnc, hcrl, hdp⟩

/-! ## Section 4: The return value -/

theorem validity_eq_one (c : Cache) : validity c = 1 ↔ c.ex_flags.invalid = false := by
  cases h : c.ex_flags.invalid <;> simp [validity, h]

/-- **The return value** of `x509v3_cache_extensions` on an object whose
    cache is not filled yet: 1 iff the cache was not marked invalid and the
    certificate is well formed. -/
theorem x509v3_cache_extensions_eq_one_iff (x : X509) (h : x.cache.ex_flags.set = false) :
    (x509v3_cache_extensions env x).1 = 1 ↔
      x.cache.ex_flags.invalid = false ∧ WellFormed env x.cert := by
  simp only [x509v3_cache_extensions, h, Bool.false_eq_true, if_false, validity_eq_one,
    computedCache_valid]

/-- The sample CA certificate, from a fresh cache, is well formed. -/
theorem x509v3_cache_extensions_eq_one_iff_sample :
    Cache.fresh.ex_flags.set = false ∧
      ((x509v3_cache_extensions sampleEnv ⟨sampleCaCert, Cache.fresh⟩).1 = 1 ↔
        Cache.fresh.ex_flags.invalid = false ∧ WellFormed sampleEnv sampleCaCert) :=
  ⟨rfl, x509v3_cache_extensions_eq_one_iff sampleEnv ⟨sampleCaCert, Cache.fresh⟩ rfl⟩

/-! ## Section 5: `EXFLAG_CRITICAL` -/

/-- The blocks before the scan of lines 391-400 leave `EXFLAG_CRITICAL` as
    they found it. -/
theorem cacheBlocks_critical (cert : Cert) :
    ∀ f ∈ (cacheBlocks env cert).take 12, ∀ c, (f c).ex_flags.critical = c.ex_flags.critical := by
  simp only [cacheBlocks, List.take, List.mem_cons, List.mem_singleton, List.not_mem_nil, or_false]
  rintro f (rfl | rfl | rfl | rfl | rfl | rfl | rfl | rfl | rfl | rfl | rfl | rfl) c
  all_goals
    simp only [cacheDigest, cacheVersion, cacheBasicConstraints, cacheKeyUsage, cacheExtKeyUsage,
      cacheNsCertType, cacheSkid, cacheAkid, cacheSelfSigned, cacheAltname, cacheNameConstraints,
      cacheCrldp, storeExt]
    repeat' split
    all_goals rfl

theorem computedCache_critical (cert : Cert) (c : Cache) :
    (computedCache env cert c).ex_flags.critical =
      (c.ex_flags.critical || criticalUnsupported cert.extensions) := by
  have h12 : (runBlocks env cert 12 c).ex_flags.critical = c.ex_flags.critical :=
    foldl_proj (·.ex_flags.critical) _ (cacheBlocks_critical env cert) c
  show (cacheCritical cert (runBlocks env cert 12 c)).markSet.ex_flags.critical = _
  unfold cacheCritical
  split_ifs with hcrit <;> simp [Cache.markSet, h12, hcrit]

/-- **Unsupported critical extensions are flagged**: on an object whose
    cache is not filled yet, `EXFLAG_CRITICAL` is set after the call iff it
    was set before or the certificate has a critical extension of a type
    that `X509_supported_extension` does not list. -/
theorem x509v3_cache_extensions_critical (x : X509) (h : x.cache.ex_flags.set = false) :
    (x509v3_cache_extensions env x).2.cache.ex_flags.critical = true ↔
      x.cache.ex_flags.critical = true ∨
        ∃ ex ∈ x.cert.extensions, ex.critical = true ∧ X509_supported_extension ex = false := by
  simp only [x509v3_cache_extensions, h, Bool.false_eq_true, if_false, computedCache_critical,
    Bool.or_eq_true, criticalUnsupported_iff]

/-- The sample CA certificate's one critical extension, basic constraints,
    is supported. -/
theorem x509v3_cache_extensions_critical_sample :
    Cache.fresh.ex_flags.set = false ∧
      ((x509v3_cache_extensions sampleEnv ⟨sampleCaCert, Cache.fresh⟩).2.cache.ex_flags.critical =
          true ↔
        Cache.fresh.ex_flags.critical = true ∨
          ∃ ex ∈ sampleCaCert.extensions, ex.critical = true ∧ X509_supported_extension ex = false) :=
  ⟨rfl, x509v3_cache_extensions_critical sampleEnv ⟨sampleCaCert, Cache.fresh⟩ rfl⟩

end X509v3
