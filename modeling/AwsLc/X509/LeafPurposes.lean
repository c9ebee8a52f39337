import AwsLc.X509.Fields

/-! # What the leaf checks accept

    With `ca = 0`, `X509_check_purpose(x, id, 0)` asks whether `x` may be
    used as an end-entity certificate for a purpose. The checks of
    `xstandard` read the cached usages through `ku_reject`, `xku_reject`
    and `ns_reject`, which reject a certificate that has the extension and
    grants none of the bits asked for; `purpose_smime` reads the Netscape
    cert type once more and wants every bit of `NS_SMIME`.

    Section 1 says what these tests mean for the certificate itself:
    `kuGrants`, `xkuGrants`, `nsGrants` and `nsGrantsAll` hold when the
    extension is absent or grants the bits (decidably, from the lookup), and on a new object the tests
    of the computed cache agree with them. Section 2 reads each check with
    `ca = 0` as a conjunction of the tests, and Section 3 finds each entry
    of the table by its id. Together: when the purposes have different ids,
    `X509_check_purpose(x, id, 0)` on a new object accepts exactly a valid
    certificate whose own extensions grant what the purpose asks (Section 4).
    Section 5 does the same for the time-stamping check, which wants a key
    usage within digital signature and non-repudiation, an extended key
    usage of exactly time stamping, and that extension critical.
-/

namespace X509v3

variable (env : X509Env)

/-! ## Section 1: The usage tests, read on the certificate -/

/-- The key usage, when present, grants one of the `usage` bits among the
    first two bytes of its bit string, read little-endian. -/
def kuGrants (cert : Cert) (usage : UInt32) : Prop :=
  ∀ bytes, cert.keyUsage = .ok bytes →
    ((bytes.getD 0 0).toNat + 256 * (bytes.getD 1 0).toNat) &&& usage.toNat ≠ 0

/-- The extended key usage, when present, lists a purpose whose `XKU_*`
    bit is among `usage`. -/
def xkuGrants (cert : Cert) (usage : UInt32) : Prop :=
  ∀ purposes, cert.extKeyUsage = .ok purposes → ∃ nid ∈ purposes, xkuBit env nid &&& usage ≠ 0

/-- The Netscape cert type, when present, has one of the `usage` bits in
    its first byte. -/
def nsGrants (cert : Cert) (usage : UInt32) : Prop :=
  ∀ bytes, cert.nsCertType = .ok bytes → (bytes.getD 0 0).toUInt32 &&& usage ≠ 0

/-- The Netscape cert type, when present, has every `usage` bit in its first byte. -/
def nsGrantsAll (cert : Cert) (usage : UInt32) : Prop :=
  ∀ bytes, cert.nsCertType = .ok bytes → (bytes.getD 0 0).toUInt32 &&& usage = usage

/-- A test of an extension where it decodes is decided by the lookup. -/
instance ExtLookup.decidableForallOk {α : Type} (l : ExtLookup α) (p : α → Prop)
    [DecidablePred p] : Decidable (∀ v, l = .ok v → p v) :=
  match l with
  | .ok v => decidable_of_iff (p v) ⟨fun h _ hw => ExtLookup.ok.inj hw ▸ h, fun h => h v rfl⟩
  | .absent => isTrue fun _ h => ExtLookup.noConfusion h
  | .invalid => isTrue fun _ h => ExtLookup.noConfusion h

/-- That an extension decodes to a value with a property is decided by the lookup. -/
instance ExtLookup.decidableExistsOk {α : Type} (l : ExtLookup α) (p : α → Prop)
    [DecidablePred p] : Decidable (∃ v, l = .ok v ∧ p v) :=
  match l with
  | .ok v => decidable_of_iff (p v) ⟨fun h => ⟨v, rfl, h⟩, fun ⟨_, hw, h⟩ => ExtLookup.ok.inj hw ▸ h⟩
  | .absent => isFalse fun ⟨_, h, _⟩ => ExtLookup.noConfusion h
  | .invalid => isFalse fun ⟨_, h, _⟩ => ExtLookup.noConfusion h

instance (cert : Cert) (usage : UInt32) : Decidable (kuGrants cert usage) :=
  ExtLookup.decidableForallOk _ _

instance (cert : Cert) (usage : UInt32) : Decidable (xkuGrants env cert usage) :=
  ExtLookup.decidableForallOk _ _

instance (cert : Cert) (usage : UInt32) : Decidable (nsGrants cert usage) :=
  ExtLookup.decidableForallOk _ _

instance (cert : Cert) (usage : UInt32) : Decidable (nsGrantsAll cert usage) :=
  ExtLookup.decidableForallOk _ _

theorem lor_eq_zero_iff (a b : Nat) : a ||| b = 0 ↔ a = 0 ∧ b = 0 := by
  refine ⟨fun h => ?_, fun ⟨ha, hb⟩ => by rw [ha, hb]; rfl⟩
  have hbits : ∀ i, a.testBit i = false ∧ b.testBit i = false := fun i => by
    simpa [Nat.testBit_or] using congrArg (Nat.testBit · i) h
  exact ⟨Nat.eq_of_testBit_eq fun i => by simp [(hbits i).1],
    Nat.eq_of_testBit_eq fun i => by simp [(hbits i).2]⟩

theorem UInt32.or_and_eq_zero (a b m : UInt32) :
    (a ||| b) &&& m = 0 ↔ a &&& m = 0 ∧ b &&& m = 0 := by
  simp only [UInt32.eq_zero_iff_toNat, UInt32.and_toNat, UInt32.or_toNat, Nat.and_distrib_right,
    lor_eq_zero_iff]

/-- The loop over the extended key usage meets `m` iff a listed purpose does. -/
theorem foldl_xkuBit_and_eq_zero (m : UInt32) :
    ∀ (l : List Nid) (k : UInt32), (l.foldl (fun k nid => k ||| xkuBit env nid) k) &&& m = 0 ↔
      k &&& m = 0 ∧ ∀ nid ∈ l, xkuBit env nid &&& m = 0
  | [], _ => by simp
  | nid :: l, k => by
    rw [List.foldl_cons, foldl_xkuBit_and_eq_zero m l, UInt32.or_and_eq_zero,
      List.forall_mem_cons, and_assoc]

section Fresh

variable {env} {x : X509} (hfresh : x.cache.ex_flags = Cache.fresh.ex_flags)
include hfresh

theorem ku_reject_fresh_iff (usage : UInt32) :
    ku_reject (computedCache env x.cert x.cache) usage = false ↔ kuGrants x.cert usage :=
  ku_reject_fresh hfresh usage

theorem xku_reject_fresh (usage : UInt32) :
    xku_reject (computedCache env x.cert x.cache) usage = false ↔ xkuGrants env x.cert usage := by
  have hxku := @computedCache_xku env x.cert x.cache
  have h0 : x.cache.ex_flags.xkusage = false := by rw [hfresh]; rfl
  simp only [xku_reject, usageReject, hxku.1, hxku.2, xkuGrants]
  unfold cacheExtKeyUsage
  rcases x.cert.extKeyUsage with _ | _ | purposes
  · simp [h0]
  · simp [Cache.setInvalid, h0]
  · have hzero : (0 : UInt32) &&& usage = 0 := by
      rw [UInt32.eq_zero_iff_toNat, UInt32.and_toNat, UInt32.toNat_zero, Nat.zero_and]
    simp [Cache.modifyFlags, foldl_xkuBit_and_eq_zero, hzero]

theorem ns_reject_fresh (usage : UInt32) :
    ns_reject (computedCache env x.cert x.cache) usage = false ↔ nsGrants x.cert usage := by
  obtain ⟨hflag, hval⟩ := @ns_fresh env x hfresh
  simp only [ns_reject, usageReject, Bool.and_eq_false_iff, beq_eq_false_iff_ne, nsGrants]
  constructor
  · rintro (h | h) bytes hns
    · exact absurd (hflag.mpr ⟨bytes, hns⟩) (by simp [h])
    · rwa [← hval bytes hns]
  · intro h
    by_cases hf : (computedCache env x.cert x.cache).ex_flags.nscert = true
    · obtain ⟨bytes, hns⟩ := hflag.mp hf
      exact .inr (hval bytes hns ▸ h bytes hns)
    · exact .inl (by simpa using hf)

theorem nsGrantsAll_fresh (usage : UInt32) :
    ((computedCache env x.cert x.cache).ex_flags.nscert = true →
        (computedCache env x.cert x.cache).ex_nscert &&& usage = usage) ↔
      nsGrantsAll x.cert usage := by
  obtain ⟨hflag, hval⟩ := @ns_fresh env x hfresh
  refine ⟨fun h bytes hns => ?_, fun h hf => ?_⟩
  · rw [← hval bytes hns]
    exact h (hflag.mpr ⟨bytes, hns⟩)
  · obtain ⟨bytes, hns⟩ := hflag.mp hf
    rw [hval bytes hns]
    exact h bytes hns

end Fresh

/-! ## Section 2: The checks with `ca = 0` -/

theorem check_purpose_ssl_client_leaf (x : X509) :
    check_purpose_ssl_client env x 0 = 1 ↔
      xku_reject x.cache env.XKU_SSL_CLIENT = false ∧
        ku_reject x.cache (env.X509v3_KU_DIGITAL_SIGNATURE ||| env.X509v3_KU_KEY_AGREEMENT) = false ∧
        ns_reject x.cache env.NS_SSL_CLIENT = false := by
  unfold check_purpose_ssl_client
  split_ifs <;> simp_all

theorem check_purpose_ssl_server_leaf (x : X509) :
    check_purpose_ssl_server env x 0 = 1 ↔
      xku_reject x.cache env.XKU_SSL_SERVER = false ∧ ns_reject x.cache env.NS_SSL_SERVER = false ∧
        ku_reject x.cache (X509v3_KU_TLS env) = false := by
  unfold check_purpose_ssl_server
  split_ifs <;> simp_all

theorem purpose_smime_leaf (x : X509) :
    purpose_smime env x 0 = 1 ↔
      xku_reject x.cache env.XKU_SMIME = false ∧
        (x.cache.ex_flags.nscert = true → x.cache.ex_nscert &&& env.NS_SMIME = env.NS_SMIME) := by
  unfold purpose_smime
  split_ifs <;> simp_all

/-- A leaf that passed the base check must also pass the key usage. -/
theorem leafKuCheck_leaf {ret : Int} (hret : ret = 0 ∨ ret = 1) (c : Cache) (usage : UInt32) :
    leafKuCheck ret 0 c usage = 1 ↔ ret = 1 ∧ ku_reject c usage = false := by
  rcases hret with rfl | rfl <;> simp [leafKuCheck]

theorem check_purpose_ssl_server_bool (x : X509) :
    check_purpose_ssl_server env x 0 = 0 ∨ check_purpose_ssl_server env x 0 = 1 := by
  unfold check_purpose_ssl_server
  split_ifs <;> simp_all

theorem purpose_smime_bool (x : X509) : purpose_smime env x 0 = 0 ∨ purpose_smime env x 0 = 1 := by
  unfold purpose_smime
  split_ifs <;> simp_all

theorem check_purpose_crl_sign_leaf (x : X509) :
    check_purpose_crl_sign env x 0 = 1 ↔ ku_reject x.cache env.X509v3_KU_CRL_SIGN = false := by
  unfold check_purpose_crl_sign caOrLeaf
  split_ifs <;> simp_all

/-! ## Section 3: Each entry, found by its id -/

/-- With different ids, the id of the `i`-th entry runs its check on the
    object the cache call leaves. -/
theorem X509_check_purpose_at (hnd : ((xstandard env).map (·.purpose)).Nodup) {i : Nat}
    {xp : X509_PURPOSE} (hget : (xstandard env)[i]? = some xp) (x : X509) (ca : Int) :
    (X509_check_purpose env x xp.purpose ca).1 =
      if (x509v3_cache_extensions env x).1 = 0 then 0
      else xp.check_purpose (x509v3_cache_extensions env x).2 ca := by
  have hlt : i < (xstandard env).length := (List.getElem?_eq_some_iff.mp hget).1
  have hneg := xstandard_purpose_ne_neg_one env (List.getElem?_mem hget)
  have hid : X509_PURPOSE_get_by_id env xp.purpose = i := by
    rw [X509_PURPOSE_get_by_id, findFrom_getElem _ 0 i hnd hget, Nat.zero_add]
  have hget0 : X509_PURPOSE_get0 env i = some xp := by
    rw [X509_PURPOSE_get0, if_neg (by omega)]
    simpa using hget
  have hi : (i : Int) ≠ -1 := by omega
  by_cases h0 : (x509v3_cache_extensions env x).1 = 0 <;>
    simp [X509_check_purpose, h0, hneg, hid, hi, hget0]

/-- On a new object, the `i`-th entry's id is accepted iff the cache call
    returns 1 and the check accepts the computed cache. -/
theorem X509_check_purpose_fresh_at {x : X509} (hfresh : x.cache.ex_flags = Cache.fresh.ex_flags)
    (hnd : ((xstandard env).map (·.purpose)).Nodup) {i : Nat} {xp : X509_PURPOSE}
    (hget : (xstandard env)[i]? = some xp) {ca : Int} :
    (X509_check_purpose env x xp.purpose ca).1 = 1 ↔
      (x509v3_cache_extensions env x).1 = 1 ∧
        xp.check_purpose ⟨x.cert, computedCache env x.cert x.cache⟩ ca = 1 := by
  rw [X509_check_purpose_at env hnd hget]
  by_cases hvalid : (x509v3_cache_extensions env x).1 = 1
  · simp [(x509v3_cache_extensions_fresh hfresh hvalid).1]
  · have h0 := not_not.mp (mt (x509v3_cache_extensions_ne_zero env x).mp hvalid)
    simp [h0]

/-! ## Section 4: The leaf policy of each purpose -/

/-- **The TLS purposes, as leaf purposes**: on a new object, when the
    purposes have different ids, `X509_check_purpose(x, id, 0)` accepts a
    TLS client exactly when the cache call returns 1 and the certificate's
    extended key usage, key usage (digital signature or key agreement) and
    Netscape cert type each allow a TLS client, where present; the same
    for a TLS server, with the key usage of `X509v3_KU_TLS`; and the
    Netscape server purpose wants key encipherment on top. -/
theorem X509_check_purpose_tls_leaf (x : X509) (hfresh : x.cache.ex_flags = Cache.fresh.ex_flags)
    (hnd : ((xstandard env).map (·.purpose)).Nodup) :
    ((X509_check_purpose env x env.X509_PURPOSE_SSL_CLIENT 0).1 = 1 ↔
      (x509v3_cache_extensions env x).1 = 1 ∧ xkuGrants env x.cert env.XKU_SSL_CLIENT ∧
        kuGrants x.cert (env.X509v3_KU_DIGITAL_SIGNATURE ||| env.X509v3_KU_KEY_AGREEMENT) ∧
        nsGrants x.cert env.NS_SSL_CLIENT) ∧
    ((X509_check_purpose env x env.X509_PURPOSE_SSL_SERVER 0).1 = 1 ↔
      (x509v3_cache_extensions env x).1 = 1 ∧ xkuGrants env x.cert env.XKU_SSL_SERVER ∧
        nsGrants x.cert env.NS_SSL_SERVER ∧ kuGrants x.cert (X509v3_KU_TLS env)) ∧
    ((X509_check_purpose env x env.X509_PURPOSE_NS_SSL_SERVER 0).1 = 1 ↔
      (x509v3_cache_extensions env x).1 = 1 ∧ (xkuGrants env x.cert env.XKU_SSL_SERVER ∧
        nsGrants x.cert env.NS_SSL_SERVER ∧ kuGrants x.cert (X509v3_KU_TLS env)) ∧
        kuGrants x.cert env.X509v3_KU_KEY_ENCIPHERMENT) := by
  have hserver := check_purpose_ssl_server_leaf env ⟨x.cert, computedCache env x.cert x.cache⟩
  simp only [xku_reject_fresh hfresh, ns_reject_fresh hfresh, ku_reject_fresh_iff hfresh] at hserver
  refine ⟨(X509_check_purpose_fresh_at env hfresh hnd (i := 0) rfl).trans ?_,
    (X509_check_purpose_fresh_at env hfresh hnd (i := 1) rfl).trans ?_,
    (X509_check_purpose_fresh_at env hfresh hnd (i := 2) rfl).trans ?_⟩
  all_goals dsimp only [xstandard, List.getElem_cons_succ, List.getElem_cons_zero]
  · simp only [check_purpose_ssl_client_leaf, xku_reject_fresh hfresh, ns_reject_fresh hfresh,
      ku_reject_fresh_iff hfresh]
  · rw [hserver]
  · rw [check_purpose_ns_ssl_server, leafKuCheck_leaf (check_purpose_ssl_server_bool _ _), hserver,
      ku_reject_fresh_iff hfresh]

/-- The TLS leaf policy on the sample CA certificate. -/
theorem X509_check_purpose_tls_leaf_sampleCa :
    sampleCa.cache.ex_flags = Cache.fresh.ex_flags ∧
    ((xstandard sampleEnv).map (·.purpose)).Nodup ∧
    ((X509_check_purpose sampleEnv sampleCa sampleEnv.X509_PURPOSE_SSL_CLIENT 0).1 = 1 ↔
      (x509v3_cache_extensions sampleEnv sampleCa).1 = 1 ∧
        xkuGrants sampleEnv sampleCa.cert sampleEnv.XKU_SSL_CLIENT ∧
        kuGrants sampleCa.cert
          (sampleEnv.X509v3_KU_DIGITAL_SIGNATURE ||| sampleEnv.X509v3_KU_KEY_AGREEMENT) ∧
        nsGrants sampleCa.cert sampleEnv.NS_SSL_CLIENT) ∧
    ((X509_check_purpose sampleEnv sampleCa sampleEnv.X509_PURPOSE_SSL_SERVER 0).1 = 1 ↔
      (x509v3_cache_extensions sampleEnv sampleCa).1 = 1 ∧
        xkuGrants sampleEnv sampleCa.cert sampleEnv.XKU_SSL_SERVER ∧
        nsGrants sampleCa.cert sampleEnv.NS_SSL_SERVER ∧ kuGrants sampleCa.cert (X509v3_KU_TLS sampleEnv)) ∧
    ((X509_check_purpose sampleEnv sampleCa sampleEnv.X509_PURPOSE_NS_SSL_SERVER 0).1 = 1 ↔
      (x509v3_cache_extensions sampleEnv sampleCa).1 = 1 ∧
        (xkuGrants sampleEnv sampleCa.cert sampleEnv.XKU_SSL_SERVER ∧
          nsGrants sampleCa.cert sampleEnv.NS_SSL_SERVER ∧
          kuGrants sampleCa.cert (X509v3_KU_TLS sampleEnv)) ∧
        kuGrants sampleCa.cert sampleEnv.X509v3_KU_KEY_ENCIPHERMENT) :=
  have hnd : ((xstandard sampleEnv).map (·.purpose)).Nodup := by decide
  ⟨rfl, hnd, X509_check_purpose_tls_leaf sampleEnv sampleCa rfl hnd⟩

/-- **The S/MIME, CRL-signing, OCSP-helper and "any" purposes, as leaf
    purposes**: on a new object, when the purposes have different ids,
    `X509_check_purpose(x, id, 0)` accepts S/MIME signing exactly when the
    cache call returns 1, the extended key usage, where present, allows
    S/MIME, the Netscape cert type, where present, has every bit of
    `NS_SMIME`, and the key usage, where present, allows digital signature
    or non-repudiation; S/MIME encryption the same with key encipherment;
    CRL signing when the key usage, where present, allows it; and the OCSP
    helper and "any" purposes whenever the cache call returns 1. -/
theorem X509_check_purpose_smime_crl_leaf (x : X509)
    (hfresh : x.cache.ex_flags = Cache.fresh.ex_flags)
    (hnd : ((xstandard env).map (·.purpose)).Nodup) :
    ((X509_check_purpose env x env.X509_PURPOSE_SMIME_SIGN 0).1 = 1 ↔
      (x509v3_cache_extensions env x).1 = 1 ∧ (xkuGrants env x.cert env.XKU_SMIME ∧
        nsGrantsAll x.cert env.NS_SMIME) ∧
        kuGrants x.cert (env.X509v3_KU_DIGITAL_SIGNATURE ||| env.X509v3_KU_NON_REPUDIATION)) ∧
    ((X509_check_purpose env x env.X509_PURPOSE_SMIME_ENCRYPT 0).1 = 1 ↔
      (x509v3_cache_extensions env x).1 = 1 ∧ (xkuGrants env x.cert env.XKU_SMIME ∧
        nsGrantsAll x.cert env.NS_SMIME) ∧ kuGrants x.cert env.X509v3_KU_KEY_ENCIPHERMENT) ∧
    ((X509_check_purpose env x env.X509_PURPOSE_CRL_SIGN 0).1 = 1 ↔
      (x509v3_cache_extensions env x).1 = 1 ∧ kuGrants x.cert env.X509v3_KU_CRL_SIGN) ∧
    ((X509_check_purpose env x env.X509_PURPOSE_OCSP_HELPER 0).1 = 1 ↔
      (x509v3_cache_extensions env x).1 = 1) ∧
    ((X509_check_purpose env x env.X509_PURPOSE_ANY 0).1 = 1 ↔
      (x509v3_cache_extensions env x).1 = 1) := by
  have hsmime := purpose_smime_leaf env ⟨x.cert, computedCache env x.cert x.cache⟩
  simp only [xku_reject_fresh hfresh, nsGrantsAll_fresh hfresh] at hsmime
  refine ⟨(X509_check_purpose_fresh_at env hfresh hnd (i := 3) rfl).trans ?_,
    (X509_check_purpose_fresh_at env hfresh hnd (i := 4) rfl).trans ?_,
    (X509_check_purpose_fresh_at env hfresh hnd (i := 5) rfl).trans ?_,
    (X509_check_purpose_fresh_at env hfresh hnd (i := 7) rfl).trans ?_,
    (X509_check_purpose_fresh_at env hfresh hnd (i := 6) rfl).trans ?_⟩
  all_goals dsimp only [xstandard, List.getElem_cons_succ, List.getElem_cons_zero]
  · rw [check_purpose_smime_sign, leafKuCheck_leaf (purpose_smime_bool _ _), hsmime,
      ku_reject_fresh_iff hfresh]
  · rw [check_purpose_smime_encrypt, leafKuCheck_leaf (purpose_smime_bool _ _), hsmime,
      ku_reject_fresh_iff hfresh]
  · rw [check_purpose_crl_sign_leaf, ku_reject_fresh_iff hfresh]
  · simp [ocsp_helper, caOrLeaf]
  · simp [no_check]

/-- The S/MIME, CRL-signing, OCSP-helper and "any" leaf policies on the
    sample CA certificate. -/
theorem X509_check_purpose_smime_crl_leaf_sampleCa :
    sampleCa.cache.ex_flags = Cache.fresh.ex_flags ∧
    ((xstandard sampleEnv).map (·.purpose)).Nodup ∧
    ((X509_check_purpose sampleEnv sampleCa sampleEnv.X509_PURPOSE_SMIME_SIGN 0).1 = 1 ↔
      (x509v3_cache_extensions sampleEnv sampleCa).1 = 1 ∧
        (xkuGrants sampleEnv sampleCa.cert sampleEnv.XKU_SMIME ∧
          nsGrantsAll sampleCa.cert sampleEnv.NS_SMIME) ∧
        kuGrants sampleCa.cert
          (sampleEnv.X509v3_KU_DIGITAL_SIGNATURE ||| sampleEnv.X509v3_KU_NON_REPUDIATION)) ∧
    ((X509_check_purpose sampleEnv sampleCa sampleEnv.X509_PURPOSE_SMIME_ENCRYPT 0).1 = 1 ↔
      (x509v3_cache_extensions sampleEnv sampleCa).1 = 1 ∧
        (xkuGrants sampleEnv sampleCa.cert sampleEnv.XKU_SMIME ∧
          nsGrantsAll sampleCa.cert sampleEnv.NS_SMIME) ∧
        kuGrants sampleCa.cert sampleEnv.X509v3_KU_KEY_ENCIPHERMENT) ∧
    ((X509_check_purpose sampleEnv sampleCa sampleEnv.X509_PURPOSE_CRL_SIGN 0).1 = 1 ↔
      (x509v3_cache_extensions sampleEnv sampleCa).1 = 1 ∧
        kuGrants sampleCa.cert sampleEnv.X509v3_KU_CRL_SIGN) ∧
    ((X509_check_purpose sampleEnv sampleCa sampleEnv.X509_PURPOSE_OCSP_HELPER 0).1 = 1 ↔
      (x509v3_cache_extensions sampleEnv sampleCa).1 = 1) ∧
    ((X509_check_purpose sampleEnv sampleCa sampleEnv.X509_PURPOSE_ANY 0).1 = 1 ↔
      (x509v3_cache_extensions sampleEnv sampleCa).1 = 1) :=
  have hnd : ((xstandard sampleEnv).map (·.purpose)).Nodup := by decide
  ⟨rfl, hnd, X509_check_purpose_smime_crl_leaf sampleEnv sampleCa rfl hnd⟩

/-! ## Section 5: The time-stamping purpose -/

/-- The key usage, when present, is not empty and grants no bit outside
    `usage`. -/
def kuWithin (cert : Cert) (usage : UInt32) : Prop :=
  ∀ bytes, cert.keyUsage = .ok bytes →
    (bytes.getD 0 0).toNat + 256 * (bytes.getD 1 0).toNat ≠ 0 ∧
      ∀ i, ((bytes.getD 0 0).toNat + 256 * (bytes.getD 1 0).toNat).testBit i = true →
        usage.toNat.testBit i = true

/-- The extended key usage is present, and the purposes it lists have,
    together, exactly the bits of `usage`. -/
def xkuExactly (cert : Cert) (usage : UInt32) : Prop :=
  ∃ purposes, cert.extKeyUsage = .ok purposes ∧
    ∀ i, (purposes.any fun nid => (xkuBit env nid).toNat.testBit i) = usage.toNat.testBit i

/-- The first extended key usage among the extensions, if there is one, is critical. -/
def xkuCritical (cert : Cert) : Prop :=
  ∀ ext ∈ cert.extensions.find? (·.nid == .ext_key_usage), ext.critical = true

instance (cert : Cert) : Decidable (xkuCritical cert) := inferInstanceAs (Decidable (∀ _ ∈ _, _))

theorem UInt32.testBit_and_not (k m : UInt32) (i : Nat) :
    (k &&& ~~~m).toNat.testBit i = (k.toNat.testBit i && (decide (i < 32) && !m.toNat.testBit i)) := by
  show (k.toBitVec &&& ~~~m.toBitVec).getLsbD i = _
  rw [BitVec.getLsbD_and, BitVec.getLsbD_not]
  rfl

/-- `k & ~m` is zero iff every bit of `k` is a bit of `m`. -/
theorem UInt32.and_not_eq_zero (k m : UInt32) :
    k &&& ~~~m = 0 ↔ ∀ i, k.toNat.testBit i = true → m.toNat.testBit i = true := by
  have hk : ∀ i, k.toNat.testBit i = true → i < 32 := fun i h => by
    by_contra hi
    rw [show k.toNat.testBit i = k.toBitVec.getLsbD i from rfl, BitVec.getLsbD_ge _ _ (by omega)] at h
    exact Bool.false_ne_true h
  rw [UInt32.eq_zero_iff_toNat]
  constructor
  · intro h i hi
    have hbit := (UInt32.testBit_and_not k m i).symm.trans (by rw [h, Nat.zero_testBit])
    simpa [hi, hk i hi] using hbit
  · intro h
    refine Nat.eq_of_testBit_eq fun i => ?_
    rw [UInt32.testBit_and_not, Nat.zero_testBit]
    cases hki : k.toNat.testBit i
    · rfl
    · simp [h i hki]

/-- The key-usage test of `check_purpose_timestamp_sign`: no bit outside
    `m`, and one inside, is a nonzero `k` within `m`. -/
theorem usage_within (k m : UInt32) :
    (k &&& ~~~m = 0 ∧ k &&& m ≠ 0) ↔
      (k.toNat ≠ 0 ∧ ∀ i, k.toNat.testBit i = true → m.toNat.testBit i = true) := by
  have hand : (∀ i, k.toNat.testBit i = true → m.toNat.testBit i = true) →
      (k &&& m).toNat = k.toNat := fun hw => Nat.eq_of_testBit_eq fun i => by
    rw [UInt32.and_toNat, Nat.testBit_and]
    cases h : k.toNat.testBit i <;> simp [hw i, h]
  rw [UInt32.and_not_eq_zero, ne_eq, UInt32.eq_zero_iff_toNat]
  constructor
  · rintro ⟨hw, hne⟩
    exact ⟨fun h0 => hne (by rw [hand hw, h0]), hw⟩
  · rintro ⟨hne, hw⟩
    exact ⟨hw, fun h0 => hne (by rw [← hand hw, h0])⟩

/-- `find?` is the element at the index `findIdx?` returns. -/
theorem find_bind_findIdx {α : Type} (p : α → Bool) :
    ∀ l : List α, (l.findIdx? p).bind (l[·]?) = l.find? p
  | [] => rfl
  | a :: l => by
    rw [List.findIdx?_cons, List.find?_cons]
    cases p a
    · simp only [Bool.false_eq_true, if_false, List.findIdx?_succ, Option.bind_map,
        Function.comp_def, List.getElem?_cons_succ]
      exact find_bind_findIdx p l
    · simp

/-- The critical-bit test of `check_purpose_timestamp_sign` reads the first
    extension of the type. -/
theorem X509_get_ext_by_NID_critical (cert : Cert) (nid : Nid) :
    (X509_get_ext_by_NID cert nid ≥ 0 →
        (X509_get_ext cert (X509_get_ext_by_NID cert nid)).any (!·.critical) = false) ↔
      ∀ ext ∈ cert.extensions.find? (·.nid == nid), ext.critical = true := by
  rw [← find_bind_findIdx, X509_get_ext_by_NID]
  cases cert.extensions.findIdx? (·.nid == nid) with
  | none => simp
  | some i =>
    have hget : X509_get_ext cert i = cert.extensions[i]? := if_neg (by omega)
    have hi : (0 : Int) ≤ i := by omega
    simp only [hget, Option.some_bind, ge_iff_le, hi, true_implies]
    rcases cert.extensions[i]? with _ | ext <;> simp

theorem timestampLeaf_eq_one (x : X509) :
    timestampLeaf env x = 1 ↔
      (x.cache.ex_flags.kusage &&
        (x.cache.ex_kusage &&& ~~~(env.X509v3_KU_NON_REPUDIATION ||| env.X509v3_KU_DIGITAL_SIGNATURE) != 0 ||
          x.cache.ex_kusage &&& (env.X509v3_KU_NON_REPUDIATION ||| env.X509v3_KU_DIGITAL_SIGNATURE) == 0)) =
        false ∧
      (!x.cache.ex_flags.xkusage || x.cache.ex_xkusage != env.XKU_TIMESTAMP) = false ∧
      xkuCritical x.cert := by
  rw [xkuCritical, ← X509_get_ext_by_NID_critical]
  unfold timestampLeaf
  dsimp only
  split
  · simp [*]
  split
  · simp [*]
  split_ifs <;> simp_all

section Fresh

variable {env} {x : X509} (hfresh : x.cache.ex_flags = Cache.fresh.ex_flags)
include hfresh

theorem kuWithin_fresh (m : UInt32) :
    ((computedCache env x.cert x.cache).ex_flags.kusage &&
        ((computedCache env x.cert x.cache).ex_kusage &&& ~~~m != 0 ||
          (computedCache env x.cert x.cache).ex_kusage &&& m == 0)) = false ↔
      kuWithin x.cert m := by
  have hku := @computedCache_ku env x.cert x.cache
  have h0 : x.cache.ex_flags.kusage = false := by rw [hfresh]; rfl
  rw [hku.1, hku.2, kuWithin]
  rcases hKU : x.cert.keyUsage with _ | _ | bytes
  · simp [cacheKeyUsage, hKU, h0]
  · simp [cacheKeyUsage, hKU, h0, Cache.setInvalid]
  · obtain ⟨hflag, hval⟩ := cacheKeyUsage_ok hKU x.cache
    simp only [hflag, Bool.true_and, Bool.or_eq_false_iff, bne_eq_false_iff_eq, beq_eq_false_iff_ne,
      usage_within, hval, ExtLookup.ok.injEq, forall_eq']

theorem xkuExactly_fresh (m : UInt32) :
    (!(computedCache env x.cert x.cache).ex_flags.xkusage ||
        (computedCache env x.cert x.cache).ex_xkusage != m) = false ↔ xkuExactly env x.cert m := by
  have hxku := @computedCache_xku env x.cert x.cache
  have h0 : x.cache.ex_flags.xkusage = false := by rw [hfresh]; rfl
  rw [hxku.1, hxku.2, xkuExactly]
  unfold cacheExtKeyUsage
  rcases x.cert.extKeyUsage with _ | _ | purposes
  · simp [h0]
  · simp [Cache.setInvalid, h0]
  · have hbits : ∀ k : UInt32, k = m ↔ ∀ i, k.toNat.testBit i = m.toNat.testBit i := fun k =>
      ⟨fun h _ => h ▸ rfl, fun h => UInt32.toNat.inj (Nat.eq_of_testBit_eq h)⟩
    simp [Cache.modifyFlags, hbits, foldl_xkuBit_testBit]

end Fresh

/-- **The time-stamping purpose, as a leaf purpose**: on a new object,
    when the purposes have different ids, `X509_check_purpose(x, id, 0)`
    for time stamping returns 1 exactly when the cache call returns 1, the
    key usage, where present, is not empty and has no bit other than
    digital signature and non-repudiation, the extended key usage is
    present and its purposes have exactly the bits of `XKU_TIMESTAMP`, and
    the first extended key usage extension, if the list has one, is
    critical. -/
theorem X509_check_purpose_timestamp_leaf (x : X509)
    (hfresh : x.cache.ex_flags = Cache.fresh.ex_flags)
    (hnd : ((xstandard env).map (·.purpose)).Nodup) :
    (X509_check_purpose env x env.X509_PURPOSE_TIMESTAMP_SIGN 0).1 = 1 ↔
      (x509v3_cache_extensions env x).1 = 1 ∧
        kuWithin x.cert (env.X509v3_KU_NON_REPUDIATION ||| env.X509v3_KU_DIGITAL_SIGNATURE) ∧
        xkuExactly env x.cert env.XKU_TIMESTAMP ∧ xkuCritical x.cert := by
  refine (X509_check_purpose_fresh_at env hfresh hnd (i := 8) rfl).trans ?_
  dsimp only [xstandard, List.getElem_cons_succ, List.getElem_cons_zero]
  rw [check_purpose_timestamp_sign, caOrLeaf, if_neg (by decide), timestampLeaf_eq_one,
    kuWithin_fresh hfresh, xkuExactly_fresh hfresh]

/-- The time-stamping leaf policy on the sample CA certificate. -/
theorem X509_check_purpose_timestamp_leaf_sampleCa :
    sampleCa.cache.ex_flags = Cache.fresh.ex_flags ∧
    ((xstandard sampleEnv).map (·.purpose)).Nodup ∧
    ((X509_check_purpose sampleEnv sampleCa sampleEnv.X509_PURPOSE_TIMESTAMP_SIGN 0).1 = 1 ↔
      (x509v3_cache_extensions sampleEnv sampleCa).1 = 1 ∧
        kuWithin sampleCa.cert
          (sampleEnv.X509v3_KU_NON_REPUDIATION ||| sampleEnv.X509v3_KU_DIGITAL_SIGNATURE) ∧
        xkuExactly sampleEnv sampleCa.cert sampleEnv.XKU_TIMESTAMP ∧ xkuCritical sampleCa.cert) :=
  have hnd : ((xstandard sampleEnv).map (·.purpose)).Nodup := by decide
  ⟨rfl, hnd, X509_check_purpose_timestamp_leaf sampleEnv sampleCa rfl hnd⟩

end X509v3
