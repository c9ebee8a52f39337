import AwsLc.X509.Cache

/-! # Certificate purposes

    `X509_check_purpose(x, id, ca)` fills the extension cache, finds the
    entry of `xstandard` whose `purpose` is `id` (the first one), and runs
    its check. With `ca` nonzero the question is whether `x` may act as a CA
    for that purpose, and `check_ca` is the common test: a key usage, when
    present, must allow certificate signing, and the certificate must be a
    self-signed version 1 root or be marked `cA` in its basic constraints.

    The checks are written against the cache (`Cache`), as the C functions
    read `x->ex_*`; the `X509_PURPOSE *xp` argument, which no check reads, is
    left out. Three of them (`check_purpose_ns_ssl_server`,
    `check_purpose_smime_sign`, `check_purpose_smime_encrypt`) share one shape,
    `leafKuCheck`; three others (`check_purpose_crl_sign`, `ocsp_helper`,
    `check_purpose_timestamp_sign`) start with the same CA test, `caOrLeaf`.

    The main result is that for every purpose but "any", a certificate that
    passes as a CA passes `X509_check_ca`.
-/

namespace X509v3

variable (env : X509Env)

/-! ## Section 1: `check_ca` -/

/-- `check_ca(x)` -/
def check_ca (c : Cache) : Int :=
  if ku_reject c env.X509v3_KU_KEY_CERT_SIGN then 0
  else if c.ex_flags.v1 && c.ex_flags.ss then 1
  else if c.ex_flags.bcons && c.ex_flags.ca then 1
  else 0

/-- `X509_check_ca(x)`: the return value and the object after the call. -/
def X509_check_ca (x : X509) : Int × X509 :=
  let r := x509v3_cache_extensions env x
  (if r.1 = 0 then 0 else check_ca env r.2.cache, r.2)

/-- What `check_ca` accepts: a key usage, if present, with certificate
    signing, and a self-signed version 1 certificate or basic constraints
    with `cA`. -/
theorem check_ca_eq_one (c : Cache) :
    check_ca env c = 1 ↔ ku_reject c env.X509v3_KU_KEY_CERT_SIGN = false ∧
      ((c.ex_flags.v1 && c.ex_flags.ss) = true ∨ (c.ex_flags.bcons && c.ex_flags.ca) = true) := by
  unfold check_ca
  split_ifs <;> simp_all

/-- What `check_ca` rejects: a key usage present without certificate
    signing, or a certificate that is neither a self-signed version 1 root
    nor marked `cA`. -/
theorem check_ca_eq_zero (c : Cache) :
    check_ca env c = 0 ↔ ku_reject c env.X509v3_KU_KEY_CERT_SIGN = true ∨
      ((c.ex_flags.v1 && c.ex_flags.ss) = false ∧ (c.ex_flags.bcons && c.ex_flags.ca) = false) := by
  unfold check_ca
  split_ifs <;> simp_all

/-! ## Section 2: The checks of `xstandard` -/

/-- `X509v3_KU_TLS` -/
def X509v3_KU_TLS : UInt32 :=
  env.X509v3_KU_DIGITAL_SIGNATURE ||| env.X509v3_KU_KEY_ENCIPHERMENT |||
    env.X509v3_KU_KEY_AGREEMENT

/-- `check_purpose_ssl_client(xp, x, ca)` -/
def check_purpose_ssl_client (x : X509) (ca : Int) : Int :=
  if xku_reject x.cache env.XKU_SSL_CLIENT then 0
  else if ca ≠ 0 then check_ca env x.cache
  else if ku_reject x.cache (env.X509v3_KU_DIGITAL_SIGNATURE ||| env.X509v3_KU_KEY_AGREEMENT)
    then 0
  else if ns_reject x.cache env.NS_SSL_CLIENT then 0
  else 1

/-- `check_purpose_ssl_server(xp, x, ca)` -/
def check_purpose_ssl_server (x : X509) (ca : Int) : Int :=
  if xku_reject x.cache env.XKU_SSL_SERVER then 0
  else if ca ≠ 0 then check_ca env x.cache
  else if ns_reject x.cache env.NS_SSL_SERVER then 0
  else if ku_reject x.cache (X509v3_KU_TLS env) then 0
  else 1

/-- The shape of `check_purpose_ns_ssl_server` and of the two S/MIME
    checks: the result `ret` of a base check, and for a leaf that passed it,
    a key usage that must grant one of the `usage` bits. -/
def leafKuCheck (ret ca : Int) (c : Cache) (usage : UInt32) : Int :=
  if ret = 0 ∨ ca ≠ 0 then ret
  else if ku_reject c usage then 0
  else ret

/-- `check_purpose_ns_ssl_server(xp, x, ca)` -/
def check_purpose_ns_ssl_server (x : X509) (ca : Int) : Int :=
  leafKuCheck (check_purpose_ssl_server env x ca) ca x.cache env.X509v3_KU_KEY_ENCIPHERMENT

/-- `purpose_smime(x, ca)` -/
def purpose_smime (x : X509) (ca : Int) : Int :=
  if xku_reject x.cache env.XKU_SMIME then 0
  else if ca ≠ 0 then
    if x.cache.ex_flags.nscert && x.cache.ex_nscert &&& env.NS_SMIME_CA == 0 then 0
    else check_ca env x.cache
  else if x.cache.ex_flags.nscert then
    if x.cache.ex_nscert &&& env.NS_SMIME == env.NS_SMIME then 1 else 0
  else 1

/-- `check_purpose_smime_sign(xp, x, ca)` -/
def check_purpose_smime_sign (x : X509) (ca : Int) : Int :=
  leafKuCheck (purpose_smime env x ca) ca x.cache
    (env.X509v3_KU_DIGITAL_SIGNATURE ||| env.X509v3_KU_NON_REPUDIATION)

/-- `check_purpose_smime_encrypt(xp, x, ca)` -/
def check_purpose_smime_encrypt (x : X509) (ca : Int) : Int :=
  leafKuCheck (purpose_smime env x ca) ca x.cache env.X509v3_KU_KEY_ENCIPHERMENT

/-- The shape of `check_purpose_crl_sign`, `ocsp_helper` and
    `check_purpose_timestamp_sign`: `check_ca` for a CA, else a leaf test. -/
def caOrLeaf (c : Cache) (ca leaf : Int) : Int :=
  if ca ≠ 0 then check_ca env c else leaf

/-- `check_purpose_crl_sign(xp, x, ca)` -/
def check_purpose_crl_sign (x : X509) (ca : Int) : Int :=
  caOrLeaf env x.cache ca (if ku_reject x.cache env.X509v3_KU_CRL_SIGN then 0 else 1)

/-- `ocsp_helper(xp, x, ca)`: a leaf is left to `OCSP_verify`. -/
def ocsp_helper (x : X509) (ca : Int) : Int := caOrLeaf env x.cache ca 1

/-- `X509_get_ext(x, loc)` -/
def X509_get_ext (cert : Cert) (loc : Int) : Option X509Extension :=
  if loc < 0 then none else cert.extensions[loc.toNat]?

/-- The leaf test of `check_purpose_timestamp_sign`: a key usage of only
    digital signature and non-repudiation (one of them at least), an
    extended key usage of exactly time stamping, and that extension critical. -/
def timestampLeaf (x : X509) : Int :=
  let ds_nr := env.X509v3_KU_NON_REPUDIATION ||| env.X509v3_KU_DIGITAL_SIGNATURE
  if x.cache.ex_flags.kusage &&
      (x.cache.ex_kusage &&& ~~~ds_nr != 0 || x.cache.ex_kusage &&& ds_nr == 0) then 0
  else if !x.cache.ex_flags.xkusage || x.cache.ex_xkusage != env.XKU_TIMESTAMP then 0
  else
    let i_ext := X509_get_ext_by_NID x.cert .ext_key_usage
    if i_ext ≥ 0 then
      if (X509_get_ext x.cert i_ext).any (!·.critical) then 0 else 1
    else 1

/-- `check_purpose_timestamp_sign(xp, x, ca)` -/
def check_purpose_timestamp_sign (x : X509) (ca : Int) : Int :=
  caOrLeaf env x.cache ca (timestampLeaf env x)

/-- `no_check(xp, x, ca)` -/
def no_check (_x : X509) (_ca : Int) : Int := 1

/-! ## Section 3: The table -/

/-- An `X509_PURPOSE`: the id, the check, and the short name. The trust
    setting, the long name and the flags are read by no modelled function. -/
structure X509_PURPOSE where
  purpose : Int
  check_purpose : X509 → Int → Int
  sname : String

/-- `xstandard` -/
def xstandard : List X509_PURPOSE :=
  [⟨env.X509_PURPOSE_SSL_CLIENT, check_purpose_ssl_client env, "sslclient"⟩,
    ⟨env.X509_PURPOSE_SSL_SERVER, check_purpose_ssl_server env, "sslserver"⟩,
    ⟨env.X509_PURPOSE_NS_SSL_SERVER, check_purpose_ns_ssl_server env, "nssslserver"⟩,
    ⟨env.X509_PURPOSE_SMIME_SIGN, check_purpose_smime_sign env, "smimesign"⟩,
    ⟨env.X509_PURPOSE_SMIME_ENCRYPT, check_purpose_smime_encrypt env, "smimeencrypt"⟩,
    ⟨env.X509_PURPOSE_CRL_SIGN, check_purpose_crl_sign env, "crlsign"⟩,
    ⟨env.X509_PURPOSE_ANY, no_check, "any"⟩,
    ⟨env.X509_PURPOSE_OCSP_HELPER, ocsp_helper env, "ocsphelper"⟩,
    ⟨env.X509_PURPOSE_TIMESTAMP_SIGN, check_purpose_timestamp_sign env, "timestampsign"⟩]

/-- `X509_PURPOSE_get_count()` -/
def X509_PURPOSE_get_count : Int := (xstandard env).length

/-- `X509_PURPOSE_get0(idx)` -/
def X509_PURPOSE_get0 (idx : Int) : Option X509_PURPOSE :=
  if idx < 0 ∨ idx ≥ (xstandard env).length then none else (xstandard env)[idx.toNat]?

/-- The loop shared by `X509_PURPOSE_get_by_sname` and
    `X509_PURPOSE_get_by_id`: from index `i` on, the first index whose entry
    has `key` equal to `k`, or -1. -/
def findFrom {β : Type} [DecidableEq β] (key : X509_PURPOSE → β) (k : β) :
    List X509_PURPOSE → Nat → Int
  | [], _ => -1
  | xp :: xps, i => if key xp = k then i else findFrom key k xps (i + 1)

/-- `X509_PURPOSE_get_by_sname(sname)`: the first index with that short name, or -1. -/
def X509_PURPOSE_get_by_sname (sname : String) : Int :=
  findFrom (·.sname) sname (xstandard env) 0

/-- `X509_PURPOSE_get_by_id(purpose)`: the first index with that id, or -1. -/
def X509_PURPOSE_get_by_id (purpose : Int) : Int := findFrom (·.purpose) purpose (xstandard env) 0

/-- `X509_PURPOSE_set(p, purpose)`: the return value and the new `*p`. -/
def X509_PURPOSE_set (p purpose : Int) : Int × Int :=
  if X509_PURPOSE_get_by_id env purpose = -1 then (0, p) else (1, purpose)

/-- `X509_check_purpose(x, id, ca)`: the return value and the object after it. -/
def X509_check_purpose (x : X509) (id ca : Int) : Int × X509 :=
  let r := x509v3_cache_extensions env x
  if r.1 = 0 then (0, r.2)
  else if id = -1 then (1, r.2)
  else
    let idx := X509_PURPOSE_get_by_id env id
    if idx = -1 then (0, r.2)
    else ((X509_PURPOSE_get0 env idx).elim 0 fun pt => pt.check_purpose r.2 ca, r.2)

/-! ## Section 4: The cache is filled once -/

theorem computedCache_set (cert : Cert) (c : Cache) :
    (computedCache env cert c).ex_flags.set = true := rfl

/-- A call on an object whose cache is not filled computes it. -/
theorem x509v3_cache_extensions_unset (x : X509) (h : x.cache.ex_flags.set = false) :
    x509v3_cache_extensions env x =
      (validity (computedCache env x.cert x.cache), ⟨x.cert, computedCache env x.cert x.cache⟩) := by
  simp [x509v3_cache_extensions, h]

/-- A second call finds the cache filled and changes nothing. -/
theorem x509v3_cache_extensions_idem (x : X509) :
    x509v3_cache_extensions env (x509v3_cache_extensions env x).2 =
      ((x509v3_cache_extensions env x).1, (x509v3_cache_extensions env x).2) := by
  unfold x509v3_cache_extensions
  cases h : x.cache.ex_flags.set <;> simp [h, computedCache_set]

/-! ## Section 5: Lookup in the table -/

section Find

variable {β : Type} [DecidableEq β] (key : X509_PURPOSE → β)

/-- The loop returns an index at which the key sits. -/
theorem findFrom_spec (k : β) :
    ∀ (xps : List X509_PURPOSE) (i : Nat), findFrom key k xps i ≠ -1 →
      ∃ n xp, findFrom key k xps i = (i + n : Nat) ∧ xps[n]? = some xp ∧ key xp = k
  | [], _, h => absurd rfl h
  | xp :: xps, i, h => by
    unfold findFrom at h ⊢
    split_ifs with hxp
    · exact ⟨0, xp, rfl, by simp, hxp⟩
    · rw [if_neg hxp] at h
      obtain ⟨n, xp', hn, hget, hk⟩ := findFrom_spec k xps (i + 1) h
      exact ⟨n + 1, xp', by rw [hn, Nat.add_right_comm, Nat.add_assoc], by simpa using hget, hk⟩

/-- The loop finds every key that is in the list. -/
theorem findFrom_ne {k : β} :
    ∀ {xps : List X509_PURPOSE} (i : Nat), (∃ xp ∈ xps, key xp = k) → findFrom key k xps i ≠ -1
  | [], _, ⟨_, hmem, _⟩ => absurd hmem (List.not_mem_nil _)
  | xp :: xps, i, ⟨xp', hmem, hk⟩ => by
    unfold findFrom
    split_ifs with hxp
    · omega
    · exact findFrom_ne (i + 1)
        ((List.mem_cons.mp hmem).elim (fun h => absurd (h ▸ hk) hxp) fun h => ⟨xp', h, hk⟩)

/-- With keys that are all different, the loop finds each entry at its own index. -/
theorem findFrom_getElem :
    ∀ {xps : List X509_PURPOSE} (i n : Nat) {xp : X509_PURPOSE}, (xps.map key).Nodup →
      xps[n]? = some xp → findFrom key (key xp) xps i = (i + n : Nat)
  | [], _, _, _, _, hget => by simp at hget
  | y :: xps, i, 0, xp, _, hget => by
    obtain rfl : y = xp := by simpa using hget
    simp [findFrom]
  | y :: xps, i, n + 1, xp, hnd, hget => by
    rw [List.map_cons, List.nodup_cons] at hnd
    have hne : key y ≠ key xp := fun h =>
      hnd.1 (h ▸ List.mem_map_of_mem key (List.getElem?_mem (by simpa using hget)))
    rw [findFrom, if_neg hne, findFrom_getElem (i + 1) n hnd.2 (by simpa using hget)]
    congr 1
    omega

end Find

/-- `X509_PURPOSE_get0` of the index found is the entry with that id. -/
theorem X509_PURPOSE_get0_get_by_id {id : Int} (h : X509_PURPOSE_get_by_id env id ≠ -1) :
    ∃ xp ∈ xstandard env, X509_PURPOSE_get0 env (X509_PURPOSE_get_by_id env id) = some xp ∧
      xp.purpose = id := by
  obtain ⟨k, xp, hk, hget, hp⟩ := findFrom_spec _ id (xstandard env) 0 h
  have hlt : k < (xstandard env).length := (List.getElem?_eq_some_iff.mp hget).1
  refine ⟨xp, List.getElem?_mem hget, ?_, hp⟩
  rw [X509_PURPOSE_get_by_id, hk, X509_PURPOSE_get0, if_neg (by omega)]
  simpa using hget

/-- An id of the table is not the `-1` that `X509_check_purpose` reads as
    "no purpose". -/
theorem xstandard_purpose_ne_neg_one {xp : X509_PURPOSE} (hxp : xp ∈ xstandard env) :
    xp.purpose ≠ -1 :=
  env.purpose_ne_neg_one _ (List.mem_map_of_mem (·.purpose) hxp)

/-! ## Section 6: No purpose but "any" accepts a CA that `check_ca` rejects -/

section CaCheck

variable {ca : Int} (hca : ca ≠ 0)
include hca

theorem leafKuCheck_ca (ret : Int) (c : Cache) (usage : UInt32) :
    leafKuCheck ret ca c usage = ret := if_pos (.inr hca)

theorem caOrLeaf_ca (c : Cache) (leaf : Int) : caOrLeaf env c ca leaf = check_ca env c :=
  if_pos hca

theorem purpose_smime_ca (x : X509) :
    purpose_smime env x ca = 0 ∨ purpose_smime env x ca = check_ca env x.cache := by
  unfold purpose_smime
  split_ifs <;> simp

theorem check_purpose_ssl_client_ca (x : X509) :
    check_purpose_ssl_client env x ca = 0 ∨
      check_purpose_ssl_client env x ca = check_ca env x.cache := by
  unfold check_purpose_ssl_client
  split_ifs <;> simp

theorem check_purpose_ssl_server_ca (x : X509) :
    check_purpose_ssl_server env x ca = 0 ∨
      check_purpose_ssl_server env x ca = check_ca env x.cache := by
  unfold check_purpose_ssl_server
  split_ifs <;> simp

/-- **Every check but "any"** answers a CA question with 0 or with `check_ca`. -/
theorem xstandard_ca {xp : X509_PURPOSE} (hxp : xp ∈ xstandard env)
    (hany : xp.purpose ≠ env.X509_PURPOSE_ANY) (x : X509) :
    xp.check_purpose x ca = 0 ∨ xp.check_purpose x ca = check_ca env x.cache := by
  simp only [xstandard, List.mem_cons, List.mem_singleton, List.not_mem_nil, or_false] at hxp
  rcases hxp with rfl | rfl | rfl | rfl | rfl | rfl | rfl | rfl | rfl
  · exact check_purpose_ssl_client_ca env hca x
  · exact check_purpose_ssl_server_ca env hca x
  · dsimp only
    rw [check_purpose_ns_ssl_server, leafKuCheck_ca hca]
    exact check_purpose_ssl_server_ca env hca x
  · dsimp only
    rw [check_purpose_smime_sign, leafKuCheck_ca hca]
    exact purpose_smime_ca env hca x
  · dsimp only
    rw [check_purpose_smime_encrypt, leafKuCheck_ca hca]
    exact purpose_smime_ca env hca x
  · exact .inr (caOrLeaf_ca env hca _ _)
  · exact absurd rfl hany
  · exact .inr (caOrLeaf_ca env hca _ _)
  · exact .inr (caOrLeaf_ca env hca _ _)

end CaCheck

/-- **CA purposes imply `check_ca`**: for every certificate, every nonzero
    `ca` and every id of `xstandard` other than `X509_PURPOSE_ANY`, if
    `X509_check_purpose(x, id, ca)` returns 1 then `X509_check_ca(x)` returns
    1 on the object it leaves; and `check_ca` rejects exactly a cache whose
    key usage is present without certificate signing, or that is neither a
    self-signed version 1 root nor marked `cA` (`check_ca_eq_zero`). -/
theorem X509_check_purpose_check_ca (x : X509) (id ca : Int) (hca : ca ≠ 0)
    (hid : ∃ xp ∈ xstandard env, xp.purpose = id) (hany : id ≠ env.X509_PURPOSE_ANY)
    (h : (X509_check_purpose env x id ca).1 = 1) :
    (X509_check_ca env (X509_check_purpose env x id ca).2).1 = 1 ∧
      ∀ c : Cache, check_ca env c = 0 ↔ ku_reject c env.X509v3_KU_KEY_CERT_SIGN = true ∨
        ((c.ex_flags.v1 && c.ex_flags.ss) = false ∧ (c.ex_flags.bcons && c.ex_flags.ca) = false) := by
  refine ⟨?_, check_ca_eq_zero env⟩
  obtain ⟨xp₀, hxp₀, rfl⟩ := hid
  have hneg : xp₀.purpose ≠ -1 := env.purpose_ne_neg_one _ (by
    simp only [xstandard, List.mem_cons, List.mem_singleton, List.not_mem_nil,
      or_false] at hxp₀
    rcases hxp₀ with rfl | rfl | rfl | rfl | rfl | rfl | rfl | rfl | rfl <;> simp)
  have hfound : X509_PURPOSE_get_by_id env xp₀.purpose ≠ -1 := findFrom_ne _ 0 ⟨xp₀, hxp₀, rfl⟩
  obtain ⟨xp, hxp, hget, hp⟩ := X509_PURPOSE_get0_get_by_id env hfound
  have hcache := x509v3_cache_extensions_idem env x
  unfold X509_check_purpose at h ⊢
  dsimp only at h ⊢
  rw [if_neg hneg, if_neg hfound, hget, Option.elim_some] at h ⊢
  split_ifs at h ⊢ with hvalid
  · simp at h
  · simp only [X509_check_ca, hcache, hvalid, if_false]
    rcases xstandard_ca env hca hxp (hp ▸ hany) (x509v3_cache_extensions env x).2 with h0 | h1 <;>
      omega

/-- The SSL-server check accepts the sample CA as a CA, and so does
    `X509_check_ca`. -/
theorem X509_check_purpose_check_ca_sample :
    (1 : Int) ≠ 0 ∧
      (∃ xp ∈ xstandard sampleEnv, xp.purpose = sampleEnv.X509_PURPOSE_SSL_SERVER) ∧
      sampleEnv.X509_PURPOSE_SSL_SERVER ≠ sampleEnv.X509_PURPOSE_ANY ∧
      (X509_check_purpose sampleEnv ⟨sampleCaCert, Cache.fresh⟩
        sampleEnv.X509_PURPOSE_SSL_SERVER 1).1 = 1 ∧
      ((X509_check_ca sampleEnv (X509_check_purpose sampleEnv ⟨sampleCaCert, Cache.fresh⟩
        sampleEnv.X509_PURPOSE_SSL_SERVER 1).2).1 = 1 ∧
        ∀ c : Cache, check_ca sampleEnv c = 0 ↔
          ku_reject c sampleEnv.X509v3_KU_KEY_CERT_SIGN = true ∨
            ((c.ex_flags.v1 && c.ex_flags.ss) = false ∧ (c.ex_flags.bcons && c.ex_flags.ca) = false)) :=
  have hid : ∃ xp ∈ xstandard sampleEnv, xp.purpose = sampleEnv.X509_PURPOSE_SSL_SERVER :=
    ⟨_, List.mem_cons_of_mem _ (List.mem_cons_self _ _), rfl⟩
  have hrun : (X509_check_purpose sampleEnv ⟨sampleCaCert, Cache.fresh⟩
      sampleEnv.X509_PURPOSE_SSL_SERVER 1).1 = 1 := by decide
  ⟨by decide, hid, by decide, hrun,
    X509_check_purpose_check_ca sampleEnv _ _ _ (by decide) hid (by decide) hrun⟩

end X509v3
