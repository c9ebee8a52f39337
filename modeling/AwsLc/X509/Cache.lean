import Mathlib.Data.List.Basic

/-! # The extension cache of an X.509 certificate

    `v3_purp.c` decodes a certificate's extensions once and caches what the
    purpose checks read: `ex_flags`, `ex_pathlen`, `ex_kusage`,
    `ex_xkusage`, `ex_nscert`, `cert_hash`, `skid`, `akid`, `altname`, `nc`
    and `crldp`. This file models the certificate as its parsed content
    (`Cert`, immutable), the cache as a record (`Cache`), and the body of
    `x509v3_cache_extensions` (lines 256-406) as a list of blocks, each a
    function on the cache. `X509.cacheExtensions` runs them in order on a
    certificate whose `EXFLAG_SET` is clear, and sets it.

    Modelling choices:

    * The `EXFLAG_*` constants of `x509v3.h` are distinct bits, so `ex_flags`
      is the record of its bits (`ExFlags`), and `x->ex_flags |= EXFLAG_CA`
      sets one field.
    * `X509_get_ext_d2i(x, nid, &j, NULL)` is read as one of three outcomes
      (`ExtLookup`): absent (`NULL`, `j == -1`), present but unusable
      (`NULL`, `j != -1`: repeated or malformed), or decoded.
    * The constants and external functions the file uses but does not
      define (key-usage bits, purpose ids, `ASN1_INTEGER_get`,
      `DIST_POINT_set_dpname`, the `X509_V_*` codes) are the fields of an
      `X509Env`.
    * The reader-writer lock is a no-op here; `X509.Concurrency` models it.
-/

namespace X509v3

/-! ## Section 1: Parsed certificates -/

/-- An `X509_NAME`, as its canonical encoding (what `X509_NAME_cmp` compares). -/
abbrev Name := List UInt8

/-- A `GENERAL_NAME`: the code only distinguishes `GEN_DIRNAME`. -/
inductive GeneralName
  | dirName (n : Name)
  | other
  deriving DecidableEq, Repr

/-- The directory name of a `GENERAL_NAME`, if it is one. -/
def GeneralName.dirName? : GeneralName → Option Name
  | .dirName n => some n
  | .other => none

/-- An `AUTHORITY_KEYID`. -/
structure AuthorityKeyId where
  keyid : Option (List UInt8)
  issuer : Option (List GeneralName)
  serial : Option Int
  deriving DecidableEq, Repr

/-- A `DIST_POINT_NAME`: its `type` (1 for a name relative to the issuer)
    and the full name `dpname` that `DIST_POINT_set_dpname` fills in. -/
structure DistPointName where
  type : Int
  name : List UInt8
  dpname : Option Name
  deriving DecidableEq, Repr

/-- A `DIST_POINT`. -/
structure DistPoint where
  distpoint : Option DistPointName
  CRLissuer : List GeneralName
  deriving DecidableEq, Repr

/-- The object identifiers `v3_purp.c` names. -/
inductive Nid
  | netscape_cert_type | key_usage | subject_alt_name | basic_constraints
  | certificate_policies | ext_key_usage | policy_constraints | name_constraints
  | policy_mappings | inhibit_any_policy | crl_distribution_points
  | subject_key_identifier | authority_key_identifier
  | server_auth | client_auth | email_protect | code_sign | ms_sgc | ns_sgc
  | OCSP_sign | time_stamp | dvcs | anyExtendedKeyUsage
  | other
  deriving DecidableEq, Repr

/-- An `X509_EXTENSION`: its type and its critical bit. -/
structure X509Extension where
  nid : Nid
  critical : Bool
  deriving DecidableEq, Repr

/-- What `X509_get_ext_d2i` gives for one extension type. -/
inductive ExtLookup (α : Type)
  | absent
  | invalid
  | ok (v : α)
  deriving DecidableEq, Repr

/-- The pointer `X509_get_ext_d2i` returns. -/
def ExtLookup.toOption {α : Type} : ExtLookup α → Option α
  | .ok v => some v
  | _ => none

/-- `NULL` with `j != -1`. -/
def ExtLookup.isInvalid {α : Type} : ExtLookup α → Bool
  | .invalid => true
  | _ => false

/-- A `BASIC_CONSTRAINTS`: the `cA` bit and the path length, if present. -/
structure BasicConstraints where
  ca : Bool
  pathlen : Option Int
  deriving DecidableEq, Repr

/-- The parsed content of a certificate: what the cache is computed from. -/
structure Cert where
  /-- `X509_digest(x, EVP_sha256(), ...)`, `none` on failure. -/
  digest : Option (List UInt8)
  /-- `X509_get_version(x)` -/
  version : Int
  basicConstraints : ExtLookup BasicConstraints
  /-- The bytes of the key-usage bit string. -/
  keyUsage : ExtLookup (List UInt8)
  /-- The purposes listed in the extended key usage. -/
  extKeyUsage : ExtLookup (List Nid)
  /-- The bytes of the Netscape cert-type bit string. -/
  nsCertType : ExtLookup (List UInt8)
  subjectKeyId : ExtLookup (List UInt8)
  authorityKeyId : ExtLookup AuthorityKeyId
  subjectAltName : ExtLookup (List GeneralName)
  /-- The name constraints, kept as their encoding: nothing here reads them. -/
  nameConstraints : ExtLookup (List UInt8)
  crlDistributionPoints : ExtLookup (List DistPoint)
  subject : Name
  issuer : Name
  serialNumber : Int
  /-- The extensions in order, for the critical-extension scan. -/
  extensions : List X509Extension
  deriving DecidableEq, Repr

/-! ## Section 2: The cache -/

/-- `ex_flags`, one field per `EXFLAG_*` bit the file sets or tests. -/
structure ExFlags where
  bcons : Bool
  kusage : Bool
  xkusage : Bool
  nscert : Bool
  ca : Bool
  si : Bool
  v1 : Bool
  invalid : Bool
  set : Bool
  critical : Bool
  ss : Bool
  deriving DecidableEq, Repr

/-- The cached fields of an `X509`. -/
structure Cache where
  ex_flags : ExFlags
  ex_pathlen : Int
  ex_kusage : UInt32
  ex_xkusage : UInt32
  ex_nscert : UInt32
  cert_hash : List UInt8
  skid : Option (List UInt8)
  akid : Option AuthorityKeyId
  altname : Option (List GeneralName)
  nc : Option (List UInt8)
  crldp : Option (List DistPoint)
  deriving DecidableEq, Repr

/-- An `X509`: the parsed certificate and its cache. -/
structure X509 where
  cert : Cert
  cache : Cache
  deriving DecidableEq, Repr

/-- `x->ex_flags |= ...`: a change to the flags alone. -/
def Cache.modifyFlags (c : Cache) (f : ExFlags → ExFlags) : Cache :=
  { c with ex_flags := f c.ex_flags }

/-- `x->ex_flags |= EXFLAG_INVALID` -/
def Cache.setInvalid (c : Cache) : Cache := c.modifyFlags fun f => { f with invalid := true }

@[simp] theorem Cache.modifyFlags_ex_flags (c : Cache) (f : ExFlags → ExFlags) :
    (c.modifyFlags f).ex_flags = f c.ex_flags := rfl

/-! ## Section 3: Constants and collaborators from other files -/

/-- The header constants and the functions of other files that `v3_purp.c`
    uses. Purpose ids are never -1, the value `X509_check_purpose` reserves. -/
structure X509Env where
  X509_VERSION_1 : Int
  X509v3_KU_DIGITAL_SIGNATURE : UInt32
  X509v3_KU_NON_REPUDIATION : UInt32
  X509v3_KU_KEY_ENCIPHERMENT : UInt32
  X509v3_KU_KEY_AGREEMENT : UInt32
  X509v3_KU_KEY_CERT_SIGN : UInt32
  X509v3_KU_CRL_SIGN : UInt32
  XKU_SSL_SERVER : UInt32
  XKU_SSL_CLIENT : UInt32
  XKU_SMIME : UInt32
  XKU_CODE_SIGN : UInt32
  XKU_SGC : UInt32
  XKU_OCSP_SIGN : UInt32
  XKU_TIMESTAMP : UInt32
  XKU_DVCS : UInt32
  XKU_ANYEKU : UInt32
  NS_SSL_CLIENT : UInt32
  NS_SSL_SERVER : UInt32
  NS_SMIME : UInt32
  NS_SMIME_CA : UInt32
  X509_PURPOSE_SSL_CLIENT : Int
  X509_PURPOSE_SSL_SERVER : Int
  X509_PURPOSE_NS_SSL_SERVER : Int
  X509_PURPOSE_SMIME_SIGN : Int
  X509_PURPOSE_SMIME_ENCRYPT : Int
  X509_PURPOSE_CRL_SIGN : Int
  X509_PURPOSE_ANY : Int
  X509_PURPOSE_OCSP_HELPER : Int
  X509_PURPOSE_TIMESTAMP_SIGN : Int
  X509_V_OK : Int
  X509_V_ERR_AKID_SKID_MISMATCH : Int
  X509_V_ERR_AKID_ISSUER_SERIAL_MISMATCH : Int
  X509_V_ERR_SUBJECT_ISSUER_MISMATCH : Int
  X509_V_ERR_UNSPECIFIED : Int
  X509_V_ERR_KEYUSAGE_NO_CERTSIGN : Int
  /-- `ASN1_INTEGER_get`: the value as a `long`, -1 when it does not fit. -/
  ASN1_INTEGER_get : Int → Int
  /-- `DIST_POINT_set_dpname(dpn, iname)`, `none` when it fails. -/
  DIST_POINT_set_dpname : DistPointName → Name → Option DistPointName
  purpose_ne_neg_one : ∀ id ∈ [X509_PURPOSE_SSL_CLIENT, X509_PURPOSE_SSL_SERVER,
    X509_PURPOSE_NS_SSL_SERVER, X509_PURPOSE_SMIME_SIGN, X509_PURPOSE_SMIME_ENCRYPT,
    X509_PURPOSE_CRL_SIGN, X509_PURPOSE_ANY, X509_PURPOSE_OCSP_HELPER,
    X509_PURPOSE_TIMESTAMP_SIGN], id ≠ -1

variable (env : X509Env)

/-! ## Section 4: Usage checks -/

/-- The shape of `ku_reject`, `xku_reject` and `ns_reject`: the extension is
    present and grants none of the `usage` bits. -/
def usageReject (present : Bool) (bits usage : UInt32) : Bool :=
  present && bits &&& usage == 0

/-- `ku_reject(x, usage)` -/
def ku_reject (c : Cache) (usage : UInt32) : Bool := usageReject c.ex_flags.kusage c.ex_kusage usage

/-- `xku_reject(x, usage)` -/
def xku_reject (c : Cache) (usage : UInt32) : Bool :=
  usageReject c.ex_flags.xkusage c.ex_xkusage usage

/-- `ns_reject(x, usage)` -/
def ns_reject (c : Cache) (usage : UInt32) : Bool := usageReject c.ex_flags.nscert c.ex_nscert usage

/-- `X509_supported_extension(ex)` -/
def X509_supported_extension (ex : X509Extension) : Bool :=
  ex.nid == .netscape_cert_type || ex.nid == .key_usage || ex.nid == .subject_alt_name ||
    ex.nid == .basic_constraints || ex.nid == .certificate_policies ||
    ex.nid == .ext_key_usage || ex.nid == .policy_constraints || ex.nid == .name_constraints ||
    ex.nid == .policy_mappings || ex.nid == .inhibit_any_policy

/-- `X509_get_ext_by_NID(x, nid, -1)`: the index of the first extension of
    type `nid`, or -1. -/
def X509_get_ext_by_NID (cert : Cert) (nid : Nid) : Int :=
  match cert.extensions.findIdx? (·.nid == nid) with
  | some i => i
  | none => -1

/-- `X509_check_akid(issuer, akid)`, reading the issuer's cached `skid`. -/
def X509_check_akid (issuer : X509) (akid : Option AuthorityKeyId) : Int :=
  match akid with
  | none => env.X509_V_OK
  | some akid =>
    if akid.keyid.isSome && issuer.cache.skid.isSome && akid.keyid != issuer.cache.skid then
      env.X509_V_ERR_AKID_SKID_MISMATCH
    else if akid.serial.isSome && akid.serial != some issuer.cert.serialNumber then
      env.X509_V_ERR_AKID_ISSUER_SERIAL_MISMATCH
    else
      match akid.issuer.bind fun gens => gens.findSome? GeneralName.dirName? with
      | some nm => if nm != issuer.cert.issuer then env.X509_V_ERR_AKID_ISSUER_SERIAL_MISMATCH
          else env.X509_V_OK
      | none => env.X509_V_OK

/-! ## Section 5: The blocks of `x509v3_cache_extensions` -/

/-- Lines 256-258: the SHA-256 digest into `cert_hash`. -/
def cacheDigest (cert : Cert) (c : Cache) : Cache :=
  match cert.digest with
  | some d => { c with cert_hash := d }
  | none => c.setInvalid

/-- Lines 260-262: a version 1 certificate. -/
def cacheVersion (cert : Cert) (c : Cache) : Cache :=
  if cert.version = env.X509_VERSION_1 then c.modifyFlags fun f => { f with v1 := true } else c

/-- Lines 264-287: basic constraints and the path length. -/
def cacheBasicConstraints (cert : Cert) (c : Cache) : Cache :=
  match cert.basicConstraints with
  | .ok bs =>
    let c := if bs.ca then c.modifyFlags fun f => { f with ca := true } else c
    let c := match bs.pathlen with
      | some p => if p < 0 || !bs.ca then { c.setInvalid with ex_pathlen := 0 }
          else { c with ex_pathlen := env.ASN1_INTEGER_get p }
      | none => { c with ex_pathlen := -1 }
    c.modifyFlags fun f => { f with bcons := true }
  | .invalid => c.setInvalid
  | .absent => c

/-- Lines 289-302: the key-usage bits, from the first two bytes. -/
def cacheKeyUsage (cert : Cert) (c : Cache) : Cache :=
  match cert.keyUsage with
  | .ok usage =>
    let k : UInt32 := match usage with
      | [] => 0
      | [b0] => b0.toUInt32
      | b0 :: b1 :: _ => b0.toUInt32 ||| b1.toUInt32 <<< 8
    { c with ex_kusage := k }.modifyFlags fun f => { f with kusage := true }
  | .invalid => c.setInvalid
  | .absent => c

/-- The `switch` of lines 307-344: the `XKU_*` bit of one purpose. -/
def xkuBit (nid : Nid) : UInt32 :=
  match nid with
  | .server_auth => env.XKU_SSL_SERVER
  | .client_auth => env.XKU_SSL_CLIENT
  | .email_protect => env.XKU_SMIME
  | .code_sign => env.XKU_CODE_SIGN
  | .ms_sgc | .ns_sgc => env.XKU_SGC
  | .OCSP_sign => env.XKU_OCSP_SIGN
  | .time_stamp => env.XKU_TIMESTAMP
  | .dvcs => env.XKU_DVCS
  | .anyExtendedKeyUsage => env.XKU_ANYEKU
  | _ => 0

/-- Lines 303-349: `ex_xkusage` is reset, then collects the listed purposes. -/
def cacheExtKeyUsage (cert : Cert) (c : Cache) : Cache :=
  let c := { c with ex_xkusage := 0 }
  match cert.extKeyUsage with
  | .ok extusage =>
    { c with ex_xkusage := extusage.foldl (fun k nid => k ||| xkuBit env nid) c.ex_xkusage
    }.modifyFlags fun f => { f with xkusage := true }
  | .invalid => c.setInvalid
  | .absent => c

/-- Lines 351-361: the Netscape cert type, from the first byte. -/
def cacheNsCertType (cert : Cert) (c : Cache) : Cache :=
  match cert.nsCertType with
  | .ok ns =>
    { c with ex_nscert := (ns.head?.map UInt8.toUInt32).getD 0 }.modifyFlags
      fun f => { f with nscert := true }
  | .invalid => c.setInvalid
  | .absent => c

/-- The shape of lines 362-369 and 379-386: store a decoded extension, and
    flag it invalid when it is present but unusable. -/
def storeExt {α : Type} (l : ExtLookup α) (store : Option α → Cache → Cache) (c : Cache) :
    Cache :=
  let c := store l.toOption c
  if l.isInvalid then c.setInvalid else c

/-- Lines 362-365: `skid`. -/
def cacheSkid (cert : Cert) : Cache → Cache :=
  storeExt cert.subjectKeyId fun v c => { c with skid := v }

/-- Lines 366-369: `akid`. -/
def cacheAkid (cert : Cert) : Cache → Cache :=
  storeExt cert.authorityKeyId fun v c => { c with akid := v }

/-- Lines 370-378: self-issued, and self-signed when the AKID matches and
    the key usage allows certificate signing. -/
def cacheSelfSigned (cert : Cert) (c : Cache) : Cache :=
  if cert.subject = cert.issuer then
    let c := c.modifyFlags fun f => { f with si := true }
    if X509_check_akid env ⟨cert, c⟩ c.akid = env.X509_V_OK &&
        !ku_reject c env.X509v3_KU_KEY_CERT_SIGN then
      c.modifyFlags fun f => { f with ss := true }
    else c
  else c

/-- Lines 379-382: `altname`. -/
def cacheAltname (cert : Cert) : Cache → Cache :=
  storeExt cert.subjectAltName fun v c => { c with altname := v }

/-- Lines 383-386: `nc`. -/
def cacheNameConstraints (cert : Cert) : Cache → Cache :=
  storeExt cert.nameConstraints fun v c => { c with nc := v }

/-- `setup_dp(x, dp)`: a name relative to the issuer is completed with the
    first directory name of `CRLissuer`, or else the certificate's issuer. -/
def setup_dp (cert : Cert) (dp : DistPoint) : Option DistPoint :=
  match dp.distpoint with
  | some dpn =>
    if dpn.type = 1 then
      let iname := (dp.CRLissuer.findSome? GeneralName.dirName?).getD cert.issuer
      (env.DIST_POINT_set_dpname dpn iname).map fun dpn => { dp with distpoint := some dpn }
    else some dp
  | none => some dp

/-- The loop of `setup_crldp`: each point set up in place, stopping at the
    first failure. -/
def setupDps (cert : Cert) : List DistPoint → List DistPoint × Bool
  | [] => ([], true)
  | dp :: dps =>
    match setup_dp env cert dp with
    | some dp => ((setupDps cert dps).1.cons dp, (setupDps cert dps).2)
    | none => (dp :: dps, false)

/-- Lines 387-389: `setup_crldp(x)`, and `EXFLAG_INVALID` when it fails. -/
def cacheCrldp (cert : Cert) (c : Cache) : Cache :=
  match cert.crlDistributionPoints with
  | .ok dps => let r := setupDps env cert dps
      let c := { c with crldp := some r.1 }
      if r.2 then c else c.setInvalid
  | .invalid => { c with crldp := none }.setInvalid
  | .absent => { c with crldp := none }

/-- The loop of lines 391-400: is there a critical extension this code does
    not support? It stops at the first. -/
def criticalUnsupported : List X509Extension → Bool
  | [] => false
  | ex :: exs =>
    if !ex.critical then criticalUnsupported exs
    else if !X509_supported_extension ex then true
    else criticalUnsupported exs

/-- Lines 391-400: `EXFLAG_CRITICAL`. -/
def cacheCritical (cert : Cert) (c : Cache) : Cache :=
  if criticalUnsupported cert.extensions then c.modifyFlags fun f => { f with critical := true }
  else c

/-- The blocks of lines 256-400 in order. -/
def cacheBlocks (cert : Cert) : List (Cache → Cache) :=
  [cacheDigest cert, cacheVersion env cert, cacheBasicConstraints env cert,
    cacheKeyUsage cert, cacheExtKeyUsage env cert, cacheNsCertType cert, cacheSkid cert,
    cacheAkid cert, cacheSelfSigned env cert, cacheAltname cert, cacheNameConstraints cert,
    cacheCrldp env cert, cacheCritical cert]

/-- The first `k` blocks, run from the cache `c`. -/
def runBlocks (cert : Cert) (k : Nat) (c : Cache) : Cache :=
  ((cacheBlocks env cert).take k).foldl (fun c f => f c) c

/-- Line 406: `x->ex_flags |= EXFLAG_SET`. -/
def Cache.markSet (c : Cache) : Cache := c.modifyFlags fun f => { f with set := true }

/-- The cache the computation leaves: every block, then `EXFLAG_SET`. -/
def computedCache (cert : Cert) (c : Cache) : Cache :=
  (runBlocks env cert (cacheBlocks env cert).length c).markSet

/-- The return value `(x->ex_flags & EXFLAG_INVALID) == 0`. -/
def validity (c : Cache) : Int := if c.ex_flags.invalid then 0 else 1

/-- `x509v3_cache_extensions(x)` run by one thread: the return value and the
    object after it. -/
def x509v3_cache_extensions (x : X509) : Int × X509 :=
  if x.cache.ex_flags.set then (validity x.cache, x)
  else
    let c := computedCache env x.cert x.cache
    (validity c, { x with cache := c })

/-! ## Section 6: The blocks never touch `EXFLAG_SET` -/

theorem storeExt_set {α : Type} (l : ExtLookup α) (store : Option α → Cache → Cache)
    (hstore : ∀ v c, (store v c).ex_flags = c.ex_flags) (c : Cache) :
    (storeExt l store c).ex_flags.set = c.ex_flags.set := by
  unfold storeExt
  split_ifs <;> simp [Cache.setInvalid, hstore]

theorem cacheCrldp_set (cert : Cert) (c : Cache) :
    (cacheCrldp env cert c).ex_flags.set = c.ex_flags.set := by
  unfold cacheCrldp
  split <;> (try dsimp only) <;> (try split_ifs) <;> rfl

/-- Every block leaves `EXFLAG_SET` as it found it. -/
theorem cacheBlocks_set (cert : Cert) :
    ∀ f ∈ cacheBlocks env cert, ∀ c, (f c).ex_flags.set = c.ex_flags.set := by
  simp only [cacheBlocks, List.mem_cons, List.mem_singleton, List.not_mem_nil, or_false]
  rintro f (rfl | rfl | rfl | rfl | rfl | rfl | rfl | rfl | rfl | rfl | rfl | rfl | rfl) c
  all_goals first
    | (apply storeExt_set; intros; rfl)
    | exact cacheCrldp_set env cert c
    | (simp only [cacheDigest, cacheVersion, cacheBasicConstraints, cacheKeyUsage,
        cacheExtKeyUsage, cacheNsCertType, cacheSelfSigned, cacheCritical]
       repeat' split
       all_goals rfl)

/-- Blocks that each leave a part of the cache as they found it leave it so
    when run in order. -/
theorem foldl_proj {β : Type} (proj : Cache → β) (fs : List (Cache → Cache))
    (hfs : ∀ f ∈ fs, ∀ c, proj (f c) = proj c) (c : Cache) :
    proj (fs.foldl (fun c f => f c) c) = proj c := by
  induction fs generalizing c with
  | nil => rfl
  | cons f fs ih =>
    rw [List.foldl_cons, ih (fun g hg => hfs g (List.mem_cons_of_mem _ hg)),
      hfs f (List.mem_cons_self _ _)]

theorem runBlocks_set (cert : Cert) (k : Nat) (c : Cache) :
    (runBlocks env cert k c).ex_flags.set = c.ex_flags.set :=
  foldl_proj (·.ex_flags.set) _ (fun f hf => cacheBlocks_set env cert f (List.mem_of_mem_take hf)) c

/-! ## Section 7: An environment and a certificate for the examples -/

/-- An environment for the examples: purpose ids 1 to 9 in table order, one
    bit per usage. -/
def sampleEnv : X509Env where
  X509_VERSION_1 := 0
  X509v3_KU_DIGITAL_SIGNATURE := 0x80
  X509v3_KU_NON_REPUDIATION := 0x40
  X509v3_KU_KEY_ENCIPHERMENT := 0x20
  X509v3_KU_KEY_AGREEMENT := 0x08
  X509v3_KU_KEY_CERT_SIGN := 0x04
  X509v3_KU_CRL_SIGN := 0x02
  XKU_SSL_SERVER := 0x1
  XKU_SSL_CLIENT := 0x2
  XKU_SMIME := 0x4
  XKU_CODE_SIGN := 0x8
  XKU_SGC := 0x10
  XKU_OCSP_SIGN := 0x20
  XKU_TIMESTAMP := 0x40
  XKU_DVCS := 0x80
  XKU_ANYEKU := 0x100
  NS_SSL_CLIENT := 0x80
  NS_SSL_SERVER := 0x40
  NS_SMIME := 0x20
  NS_SMIME_CA := 0x02
  X509_PURPOSE_SSL_CLIENT := 1
  X509_PURPOSE_SSL_SERVER := 2
  X509_PURPOSE_NS_SSL_SERVER := 3
  X509_PURPOSE_SMIME_SIGN := 4
  X509_PURPOSE_SMIME_ENCRYPT := 5
  X509_PURPOSE_CRL_SIGN := 6
  X509_PURPOSE_ANY := 7
  X509_PURPOSE_OCSP_HELPER := 8
  X509_PURPOSE_TIMESTAMP_SIGN := 9
  X509_V_OK := 0
  X509_V_ERR_AKID_SKID_MISMATCH := 30
  X509_V_ERR_AKID_ISSUER_SERIAL_MISMATCH := 31
  X509_V_ERR_SUBJECT_ISSUER_MISMATCH := 29
  X509_V_ERR_UNSPECIFIED := 1
  X509_V_ERR_KEYUSAGE_NO_CERTSIGN := 32
  ASN1_INTEGER_get v := v
  DIST_POINT_set_dpname dpn iname := some { dpn with dpname := some iname }
  purpose_ne_neg_one := by decide

/-- A cache with every field zero or empty, `EXFLAG_SET` clear. -/
def Cache.fresh : Cache :=
  ⟨⟨false, false, false, false, false, false, false, false, false, false, false⟩,
    0, 0, 0, 0, [], none, none, none, none, none⟩

/-- A certificate for the examples: a CA by its critical basic constraints,
    with no other extension. -/
def sampleCaCert : Cert where
  digest := some []
  version := 2
  basicConstraints := .ok ⟨true, none⟩
  keyUsage := .absent
  extKeyUsage := .absent
  nsCertType := .absent
  subjectKeyId := .absent
  authorityKeyId := .absent
  subjectAltName := .absent
  nameConstraints := .absent
  crlDistributionPoints := .absent
  subject := [1]
  issuer := [2]
  serialNumber := 1
  extensions := [⟨.basic_constraints, true⟩]

end X509v3
