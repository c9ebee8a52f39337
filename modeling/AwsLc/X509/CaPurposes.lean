import AwsLc.X509.LeafPurposes

/-! # What is asked of an issuer

    With `ca = 1`, `X509_check_purpose(x, id, 1)` asks whether `x` may
    issue certificates for a purpose, as chain verification asks of every
    certificate above the leaf. Every check of `xstandard` but "any" then
    ends in `check_ca`; the TLS checks test the extended key usage first,
    and `purpose_smime` tests the extended key usage and the `NS_SMIME_CA`
    bit of the Netscape cert type.

    Section 1 reads `check_ca` of a new object on its certificate
    (`caCert`), Section 2 reads each check with `ca ≠ 0` as a conjunction
    of tests, and Section 3 puts them together through the table: when the
    purposes have different ids, `X509_check_purpose(x, id, 1)` on a new
    object accepts exactly a valid certificate that `caCert` admits and
    whose own extensions grant what the purpose asks of a CA. Section 4
    reads the other question asked of an issuer, `X509_check_issued`, on
    the two certificates: the names chain, the subject's authority key
    identifier points at the issuer (`akidMatches`), and the issuer's key
    usage allows certificate signing.
-/

namespace X509v3

variable (env : X509Env)

/-! ## Section 1: `check_ca`, read on the certificate -/

/-- What `check_ca` asks, read on the certificate: the key usage, where
    present, grants certificate signing, and the certificate is a
    self-signed version 1 certificate or has basic constraints with `cA`. -/
def caCert (x : X509) : Prop :=
  kuGrants x.cert env.X509v3_KU_KEY_CERT_SIGN ∧
    ((x.cert.version = env.X509_VERSION_1 ∧ (X509_check_issued env x x).1 = env.X509_V_OK) ∨
      ∃ bs, x.cert.basicConstraints = .ok bs ∧ bs.ca = true)

instance (x : X509) : Decidable (caCert env x) := inferInstanceAs (Decidable (_ ∧ _))

example : caCert sampleEnv sampleCa := by decide

/-- On a new object whose cache call returns 1, `check_ca` of the computed
    cache is `caCert`. -/
theorem check_ca_fresh {x : X509} (hfresh : x.cache.ex_flags = Cache.fresh.ex_flags)
    (hvalid : (x509v3_cache_extensions env x).1 = 1)
    (hcodes : env.X509_V_OK ≠ env.X509_V_ERR_SUBJECT_ISSUER_MISMATCH ∧
      env.X509_V_OK ≠ env.X509_V_ERR_KEYUSAGE_NO_CERTSIGN) :
    check_ca env (computedCache env x.cert x.cache) = 1 ↔ caCert env x := by
  simp only [check_ca_eq_one, ku_reject_fresh_iff hfresh, Bool.and_eq_true,
    computedCache_v1_fresh hfresh, decide_eq_true_eq, computedCache_ss_fresh hfresh hvalid hcodes,
    computedCache_bcons_ca_fresh hfresh, caCert]

/-! ## Section 2: The checks with `ca ≠ 0` -/

section Ca

variable {ca : Int} (hca : ca ≠ 0)
include hca

theorem check_purpose_ssl_client_ca_eq_one (x : X509) :
    check_purpose_ssl_client env x ca = 1 ↔
      xku_reject x.cache env.XKU_SSL_CLIENT = false ∧ check_ca env x.cache = 1 := by
  unfold check_purpose_ssl_client
  split_ifs <;> simp_all

theorem check_purpose_ssl_server_ca_eq_one (x : X509) :
    check_purpose_ssl_server env x ca = 1 ↔
      xku_reject x.cache env.XKU_SSL_SERVER = false ∧ check_ca env x.cache = 1 := by
  unfold check_purpose_ssl_server
  split_ifs <;> simp_all

/-- `purpose_smime` for a CA: the `NS_SMIME_CA` test is `ns_reject`'s. -/
theorem purpose_smime_ca_eq_one (x : X509) :
    purpose_smime env x ca = 1 ↔
      xku_reject x.cache env.XKU_SMIME = false ∧ ns_reject x.cache env.NS_SMIME_CA = false ∧
        check_ca env x.cache = 1 := by
  unfold purpose_smime ns_reject usageReject
  split_ifs <;> simp_all

end Ca

/-! ## Section 3: The CA policy of each purpose -/

/-- **The purposes, as CA purposes**: on a new object, when the purposes
    have different ids and `X509_V_OK` differs from the two errors
    `X509_check_issued` returns itself, `X509_check_purpose(x, id, ca)` with
    `ca ≠ 0` accepts exactly when the cache call returns 1 and the
    certificate is a CA by `caCert`, and: for the three TLS purposes, its
    extended key usage, where present, allows the TLS client or server; for
    the two S/MIME purposes, its extended key usage, where present, allows
    S/MIME and its Netscape cert type, where present, has the `NS_SMIME_CA`
    bit; CRL signing, the OCSP helper and time stamping ask nothing more;
    and "any" accepts whenever the cache call returns 1. -/
theorem X509_check_purpose_ca_policy (x : X509) (hfresh : x.cache.ex_flags = Cache.fresh.ex_flags)
    (hnd : ((xstandard env).map (·.purpose)).Nodup)
    (hcodes : env.X509_V_OK ≠ env.X509_V_ERR_SUBJECT_ISSUER_MISMATCH ∧
      env.X509_V_OK ≠ env.X509_V_ERR_KEYUSAGE_NO_CERTSIGN) {ca : Int} (hca : ca ≠ 0) :
    ((X509_check_purpose env x env.X509_PURPOSE_SSL_CLIENT ca).1 = 1 ↔
      (x509v3_cache_extensions env x).1 = 1 ∧ xkuGrants env x.cert env.XKU_SSL_CLIENT ∧
        caCert env x) ∧
    ((X509_check_purpose env x env.X509_PURPOSE_SSL_SERVER ca).1 = 1 ↔
      (x509v3_cache_extensions env x).1 = 1 ∧ xkuGrants env x.cert env.XKU_SSL_SERVER ∧
        caCert env x) ∧
    ((X509_check_purpose env x env.X509_PURPOSE_NS_SSL_SERVER ca).1 = 1 ↔
      (x509v3_cache_extensions env x).1 = 1 ∧ xkuGrants env x.cert env.XKU_SSL_SERVER ∧
        caCert env x) ∧
    ((X509_check_purpose env x env.X509_PURPOSE_SMIME_SIGN ca).1 = 1 ↔
      (x509v3_cache_extensions env x).1 = 1 ∧ xkuGrants env x.cert env.XKU_SMIME ∧
        nsGrants x.cert env.NS_SMIME_CA ∧ caCert env x) ∧
    ((X509_check_purpose env x env.X509_PURPOSE_SMIME_ENCRYPT ca).1 = 1 ↔
      (x509v3_cache_extensions env x).1 = 1 ∧ xkuGrants env x.cert env.XKU_SMIME ∧
        nsGrants x.cert env.NS_SMIME_CA ∧ caCert env x) ∧
    ((X509_check_purpose env x env.X509_PURPOSE_CRL_SIGN ca).1 = 1 ↔
      (x509v3_cache_extensions env x).1 = 1 ∧ caCert env x) ∧
    ((X509_check_purpose env x env.X509_PURPOSE_OCSP_HELPER ca).1 = 1 ↔
      (x509v3_cache_extensions env x).1 = 1 ∧ caCert env x) ∧
    ((X509_check_purpose env x env.X509_PURPOSE_TIMESTAMP_SIGN ca).1 = 1 ↔
      (x509v3_cache_extensions env x).1 = 1 ∧ caCert env x) ∧
    ((X509_check_purpose env x env.X509_PURPOSE_ANY ca).1 = 1 ↔
      (x509v3_cache_extensions env x).1 = 1) := by
  have hcheck := fun hvalid => check_ca_fresh env hfresh hvalid hcodes
  refine ⟨(X509_check_purpose_fresh_at env hfresh hnd (i := 0) rfl).trans ?_,
    (X509_check_purpose_fresh_at env hfresh hnd (i := 1) rfl).trans ?_,
    (X509_check_purpose_fresh_at env hfresh hnd (i := 2) rfl).trans ?_,
    (X509_check_purpose_fresh_at env hfresh hnd (i := 3) rfl).trans ?_,
    (X509_check_purpose_fresh_at env hfresh hnd (i := 4) rfl).trans ?_,
    (X509_check_purpose_fresh_at env hfresh hnd (i := 5) rfl).trans ?_,
    (X509_check_purpose_fresh_at env hfresh hnd (i := 7) rfl).trans ?_,
    (X509_check_purpose_fresh_at env hfresh hnd (i := 8) rfl).trans ?_,
    (X509_check_purpose_fresh_at env hfresh hnd (i := 6) rfl).trans
      (by dsimp only [xstandard, List.getElem_cons_succ, List.getElem_cons_zero]; simp [no_check])⟩
  all_goals
    dsimp only [xstandard, List.getElem_cons_succ, List.getElem_cons_zero]
    refine and_congr_right fun hvalid => ?_
  · rw [check_purpose_ssl_client_ca_eq_one env hca, xku_reject_fresh hfresh, hcheck hvalid]
  · rw [check_purpose_ssl_server_ca_eq_one env hca, xku_reject_fresh hfresh, hcheck hvalid]
  · rw [check_purpose_ns_ssl_server, leafKuCheck_ca hca, check_purpose_ssl_server_ca_eq_one env hca,
      xku_reject_fresh hfresh, hcheck hvalid]
  · rw [check_purpose_smime_sign, leafKuCheck_ca hca, purpose_smime_ca_eq_one env hca,
      xku_reject_fresh hfresh, ns_reject_fresh hfresh, hcheck hvalid]
  · rw [check_purpose_smime_encrypt, leafKuCheck_ca hca, purpose_smime_ca_eq_one env hca,
      xku_reject_fresh hfresh, ns_reject_fresh hfresh, hcheck hvalid]
  · rw [check_purpose_crl_sign, caOrLeaf_ca env hca, hcheck hvalid]
  · rw [ocsp_helper, caOrLeaf_ca env hca, hcheck hvalid]
  · rw [check_purpose_timestamp_sign, caOrLeaf_ca env hca, hcheck hvalid]

/-- The CA policies on the sample CA certificate. -/
theorem X509_check_purpose_ca_policy_sampleCa :
    sampleCa.cache.ex_flags = Cache.fresh.ex_flags ∧
    ((xstandard sampleEnv).map (·.purpose)).Nodup ∧
    (sampleEnv.X509_V_OK ≠ sampleEnv.X509_V_ERR_SUBJECT_ISSUER_MISMATCH ∧
      sampleEnv.X509_V_OK ≠ sampleEnv.X509_V_ERR_KEYUSAGE_NO_CERTSIGN) ∧ (1 : Int) ≠ 0 ∧
    ((X509_check_purpose sampleEnv sampleCa sampleEnv.X509_PURPOSE_SSL_CLIENT 1).1 = 1 ↔
      (x509v3_cache_extensions sampleEnv sampleCa).1 = 1 ∧
        xkuGrants sampleEnv sampleCa.cert sampleEnv.XKU_SSL_CLIENT ∧ caCert sampleEnv sampleCa) ∧
    ((X509_check_purpose sampleEnv sampleCa sampleEnv.X509_PURPOSE_SSL_SERVER 1).1 = 1 ↔
      (x509v3_cache_extensions sampleEnv sampleCa).1 = 1 ∧
        xkuGrants sampleEnv sampleCa.cert sampleEnv.XKU_SSL_SERVER ∧ caCert sampleEnv sampleCa) ∧
    ((X509_check_purpose sampleEnv sampleCa sampleEnv.X509_PURPOSE_NS_SSL_SERVER 1).1 = 1 ↔
      (x509v3_cache_extensions sampleEnv sampleCa).1 = 1 ∧
        xkuGrants sampleEnv sampleCa.cert sampleEnv.XKU_SSL_SERVER ∧ caCert sampleEnv sampleCa) ∧
    ((X509_check_purpose sampleEnv sampleCa sampleEnv.X509_PURPOSE_SMIME_SIGN 1).1 = 1 ↔
      (x509v3_cache_extensions sampleEnv sampleCa).1 = 1 ∧
        xkuGrants sampleEnv sampleCa.cert sampleEnv.XKU_SMIME ∧
        nsGrants sampleCa.cert sampleEnv.NS_SMIME_CA ∧ caCert sampleEnv sampleCa) ∧
    ((X509_check_purpose sampleEnv sampleCa sampleEnv.X509_PURPOSE_SMIME_ENCRYPT 1).1 = 1 ↔
      (x509v3_cache_extensions sampleEnv sampleCa).1 = 1 ∧
        xkuGrants sampleEnv sampleCa.cert sampleEnv.XKU_SMIME ∧
        nsGrants sampleCa.cert sampleEnv.NS_SMIME_CA ∧ caCert sampleEnv sampleCa) ∧
    ((X509_check_purpose sampleEnv sampleCa sampleEnv.X509_PURPOSE_CRL_SIGN 1).1 = 1 ↔
      (x509v3_cache_extensions sampleEnv sampleCa).1 = 1 ∧ caCert sampleEnv sampleCa) ∧
    ((X509_check_purpose sampleEnv sampleCa sampleEnv.X509_PURPOSE_OCSP_HELPER 1).1 = 1 ↔
      (x509v3_cache_extensions sampleEnv sampleCa).1 = 1 ∧ caCert sampleEnv sampleCa) ∧
    ((X509_check_purpose sampleEnv sampleCa sampleEnv.X509_PURPOSE_TIMESTAMP_SIGN 1).1 = 1 ↔
      (x509v3_cache_extensions sampleEnv sampleCa).1 = 1 ∧ caCert sampleEnv sampleCa) ∧
    ((X509_check_purpose sampleEnv sampleCa sampleEnv.X509_PURPOSE_ANY 1).1 = 1 ↔
      (x509v3_cache_extensions sampleEnv sampleCa).1 = 1) :=
  have hnd : ((xstandard sampleEnv).map (·.purpose)).Nodup := by decide
  have hcodes : sampleEnv.X509_V_OK ≠ sampleEnv.X509_V_ERR_SUBJECT_ISSUER_MISMATCH ∧
      sampleEnv.X509_V_OK ≠ sampleEnv.X509_V_ERR_KEYUSAGE_NO_CERTSIGN := by decide
  ⟨rfl, hnd, hcodes, by decide,
    X509_check_purpose_ca_policy sampleEnv sampleCa rfl hnd hcodes (by decide)⟩

/-! ## Section 4: The issuer of a certificate -/

/-- The subject's authority key identifier, where decoded, points at the
    issuer: its key id, where both are present, is the issuer's subject key
    id; its serial, where present, is the issuer's serial number; and its
    first directory name, where there is one, is the issuer's issuer name. -/
def akidMatches (issuer subject : Cert) : Prop :=
  ∀ akid, subject.authorityKeyId = .ok akid →
    (∀ k, akid.keyid = some k → ∀ s, issuer.subjectKeyId = .ok s → k = s) ∧
    (∀ n, akid.serial = some n → n = issuer.serialNumber) ∧
    (∀ nm, akid.issuer.bind (·.findSome? GeneralName.dirName?) = some nm → nm = issuer.issuer)

/-- A test of an optional field where it is present is decided by the field. -/
instance Option.decidableForallEqSome {α : Type} (o : Option α) (p : α → Prop)
    [DecidablePred p] : Decidable (∀ v, o = some v → p v) :=
  match o with
  | some v => decidable_of_iff (p v) ⟨fun h _ hw => Option.some.inj hw ▸ h, fun h => h v rfl⟩
  | none => isTrue fun _ h => Option.noConfusion h

instance (issuer subject : Cert) : Decidable (akidMatches issuer subject) :=
  ExtLookup.decidableForallOk _ _

theorem ExtLookup.toOption_ok {α : Type} (v : α) : (ExtLookup.ok v).toOption = some v := rfl

/-- A test that returns an error code other than `X509_V_OK` passes only
    when its condition is false. -/
theorem if_error_eq_ok {b : Bool} {e r ok : Int} (he : e ≠ ok) :
    (if b = true then e else r) = ok ↔ b = false ∧ r = ok := by
  cases b <;> simp [he]

/-- `X509_check_akid` on the computed caches is `akidMatches`, whatever
    the caches' validity: an extension that does not decode is not cached
    and so not checked. -/
theorem X509_check_akid_fresh (issuer subject : X509)
    (hcodes : env.X509_V_OK ≠ env.X509_V_ERR_AKID_SKID_MISMATCH ∧
      env.X509_V_OK ≠ env.X509_V_ERR_AKID_ISSUER_SERIAL_MISMATCH) :
    X509_check_akid env ⟨issuer.cert, computedCache env issuer.cert issuer.cache⟩
        (computedCache env subject.cert subject.cache).akid = env.X509_V_OK ↔
      akidMatches issuer.cert subject.cert := by
  obtain ⟨h1, h2⟩ := hcodes
  rw [computedCache_akid, akidMatches]
  rcases subject.cert.authorityKeyId with _ | _ | ⟨keyid, gens, serial⟩
  · simp [X509_check_akid, ExtLookup.toOption]
  · simp [X509_check_akid, ExtLookup.toOption]
  -- the three tests in turn: the key ids, the serial, the directory name
  have hkey : (keyid.isSome && issuer.cert.subjectKeyId.toOption.isSome &&
      keyid != issuer.cert.subjectKeyId.toOption) = false ↔
      ∀ k, keyid = some k → ∀ s, issuer.cert.subjectKeyId = .ok s → k = s := by
    cases keyid <;> cases issuer.cert.subjectKeyId <;> simp [ExtLookup.toOption]
  have hser : (serial.isSome && serial != some issuer.cert.serialNumber) = false ↔
      ∀ n, serial = some n → n = issuer.cert.serialNumber := by
    cases serial <;> simp
  simp only [ExtLookup.toOption_ok, X509_check_akid, computedCache_skid, ExtLookup.ok.injEq,
    forall_eq']
  rw [if_error_eq_ok h1.symm, if_error_eq_ok h2.symm, hkey, hser]
  refine and_congr_right fun _ => and_congr_right fun _ => ?_
  cases gens.bind (·.findSome? GeneralName.dirName?) <;> simp [h2.symm]

/-- **What `X509_check_issued` checks, read on the certificates**: for two
    new objects, when `X509_V_OK` differs from the five errors the check
    can return, `X509_check_issued(issuer, subject)` returns `X509_V_OK`
    exactly when the issuer's subject name is the subject's issuer name,
    both cache calls return 1, the subject's authority key identifier
    points at the issuer (`akidMatches`), and the issuer's key usage, where
    present, grants certificate signing. -/
theorem X509_check_issued_certs (issuer subject : X509)
    (hfi : issuer.cache.ex_flags = Cache.fresh.ex_flags)
    (hfs : subject.cache.ex_flags = Cache.fresh.ex_flags)
    (hcodes : env.X509_V_OK ≠ env.X509_V_ERR_SUBJECT_ISSUER_MISMATCH ∧
      env.X509_V_OK ≠ env.X509_V_ERR_UNSPECIFIED ∧
      env.X509_V_OK ≠ env.X509_V_ERR_KEYUSAGE_NO_CERTSIGN ∧
      env.X509_V_OK ≠ env.X509_V_ERR_AKID_SKID_MISMATCH ∧
      env.X509_V_OK ≠ env.X509_V_ERR_AKID_ISSUER_SERIAL_MISMATCH) :
    (X509_check_issued env issuer subject).1 = env.X509_V_OK ↔
      issuer.cert.subject = subject.cert.issuer ∧
        (x509v3_cache_extensions env issuer).1 = 1 ∧ (x509v3_cache_extensions env subject).1 = 1 ∧
        akidMatches issuer.cert subject.cert ∧ kuGrants issuer.cert env.X509v3_KU_KEY_CERT_SIGN := by
  obtain ⟨h1, h2, h3, h4, h5⟩ := hcodes
  by_cases hv : (x509v3_cache_extensions env issuer).1 = 1 ∧ (x509v3_cache_extensions env subject).1 = 1
  · rw [X509_check_issued_fresh hfi hv.1 hfs hv.2 ⟨h1, h3⟩, X509_check_akid_fresh env _ _ ⟨h4, h5⟩,
      ku_reject_fresh_iff hfi]
    simp only [hv.1, hv.2, true_and]
  -- a cache call that fails gives `X509_V_ERR_UNSPECIFIED` once the names match
  · simp only [← x509v3_cache_extensions_ne_zero, not_and_or, not_not] at hv
    unfold X509_check_issued
    rcases hv with h0 | h0 <;> split_ifs <;> simp_all [h1.symm, h2.symm, apply_ite Prod.fst]

/-- The sample CA certificate, which has no key identifiers, issues itself. -/
theorem X509_check_issued_certs_sampleCa :
    sampleCa.cache.ex_flags = Cache.fresh.ex_flags ∧
      (sampleEnv.X509_V_OK ≠ sampleEnv.X509_V_ERR_SUBJECT_ISSUER_MISMATCH ∧
        sampleEnv.X509_V_OK ≠ sampleEnv.X509_V_ERR_UNSPECIFIED ∧
        sampleEnv.X509_V_OK ≠ sampleEnv.X509_V_ERR_KEYUSAGE_NO_CERTSIGN ∧
        sampleEnv.X509_V_OK ≠ sampleEnv.X509_V_ERR_AKID_SKID_MISMATCH ∧
        sampleEnv.X509_V_OK ≠ sampleEnv.X509_V_ERR_AKID_ISSUER_SERIAL_MISMATCH) ∧
      ((X509_check_issued sampleEnv sampleCa sampleCa).1 = sampleEnv.X509_V_OK ↔
        sampleCa.cert.subject = sampleCa.cert.issuer ∧
          (x509v3_cache_extensions sampleEnv sampleCa).1 = 1 ∧
          (x509v3_cache_extensions sampleEnv sampleCa).1 = 1 ∧
          akidMatches sampleCa.cert sampleCa.cert ∧
          kuGrants sampleCa.cert sampleEnv.X509v3_KU_KEY_CERT_SIGN) :=
  have hcodes : sampleEnv.X509_V_OK ≠ sampleEnv.X509_V_ERR_SUBJECT_ISSUER_MISMATCH ∧
      sampleEnv.X509_V_OK ≠ sampleEnv.X509_V_ERR_UNSPECIFIED ∧
      sampleEnv.X509_V_OK ≠ sampleEnv.X509_V_ERR_KEYUSAGE_NO_CERTSIGN ∧
      sampleEnv.X509_V_OK ≠ sampleEnv.X509_V_ERR_AKID_SKID_MISMATCH ∧
      sampleEnv.X509_V_OK ≠ sampleEnv.X509_V_ERR_AKID_ISSUER_SERIAL_MISMATCH := by decide
  ⟨rfl, hcodes, X509_check_issued_certs sampleEnv sampleCa sampleCa rfl rfl hcodes⟩

end X509v3
