import AwsLc.X509.Purpose

/-! # The readers of the extension cache

    Besides `X509_check_purpose` and `X509_check_ca`, `v3_purp.c` exports
    `X509_check_issued` and eight getters. Each first calls
    `x509v3_cache_extensions` and then only reads the cache, so once
    `EXFLAG_SET` is set no function of the file writes a cached field.
    Over any sequence of calls on one object (`runCalls`), each call
    answers as it would if it came first.
-/

namespace X509v3

variable (env : X509Env)

/-- `X509_check_issued(issuer, subject)`: the return value and both objects
    after it. The subject's cache is filled only if the issuer's is valid. -/
def X509_check_issued (issuer subject : X509) : Int × X509 × X509 :=
  if issuer.cert.subject != subject.cert.issuer then
    (env.X509_V_ERR_SUBJECT_ISSUER_MISMATCH, issuer, subject)
  else
    let ri := x509v3_cache_extensions env issuer
    if ri.1 = 0 then (env.X509_V_ERR_UNSPECIFIED, ri.2, subject)
    else
      let rs := x509v3_cache_extensions env subject
      if rs.1 = 0 then (env.X509_V_ERR_UNSPECIFIED, ri.2, rs.2)
      else
        let ret := match rs.2.cache.akid with
          | some akid => X509_check_akid env ri.2 (some akid)
          | none => env.X509_V_OK
        if ret ≠ env.X509_V_OK then (ret, ri.2, rs.2)
        else if ku_reject ri.2.cache env.X509v3_KU_KEY_CERT_SIGN then
          (env.X509_V_ERR_KEYUSAGE_NO_CERTSIGN, ri.2, rs.2)
        else (env.X509_V_OK, ri.2, rs.2)

/-- `X509_get_extension_flags(x)`: the flags, whatever the call returned. -/
def X509_get_extension_flags (x : X509) : ExFlags × X509 :=
  let r := x509v3_cache_extensions env x
  (r.2.cache.ex_flags, r.2)

/-- `X509_get_key_usage(x)`: all ones when the extension is absent. -/
def X509_get_key_usage (x : X509) : UInt32 × X509 :=
  let r := x509v3_cache_extensions env x
  (if r.1 = 0 then 0 else if r.2.cache.ex_flags.kusage then r.2.cache.ex_kusage
    else 0xFFFFFFFF, r.2)

/-- `X509_get_extended_key_usage(x)`: all ones when the extension is absent. -/
def X509_get_extended_key_usage (x : X509) : UInt32 × X509 :=
  let r := x509v3_cache_extensions env x
  (if r.1 = 0 then 0 else if r.2.cache.ex_flags.xkusage then r.2.cache.ex_xkusage
    else 0xFFFFFFFF, r.2)

/-- `X509_get0_subject_key_id(x509)` -/
def X509_get0_subject_key_id (x : X509) : Option (List UInt8) × X509 :=
  let r := x509v3_cache_extensions env x
  (if r.1 = 0 then none else r.2.cache.skid, r.2)

/-- `X509_get0_authority_key_id(x509)` -/
def X509_get0_authority_key_id (x : X509) : Option (List UInt8) × X509 :=
  let r := x509v3_cache_extensions env x
  (if r.1 = 0 then none else r.2.cache.akid.bind (·.keyid), r.2)

/-- `X509_get0_authority_issuer(x509)` -/
def X509_get0_authority_issuer (x : X509) : Option (List GeneralName) × X509 :=
  let r := x509v3_cache_extensions env x
  (if r.1 = 0 then none else r.2.cache.akid.bind (·.issuer), r.2)

/-- `X509_get0_authority_serial(x509)` -/
def X509_get0_authority_serial (x : X509) : Option Int × X509 :=
  let r := x509v3_cache_extensions env x
  (if r.1 = 0 then none else r.2.cache.akid.bind (·.serial), r.2)

/-- `X509_get_pathlen(x509)`: -1 without basic constraints. -/
def X509_get_pathlen (x : X509) : Int × X509 :=
  let r := x509v3_cache_extensions env x
  (if r.1 = 0 || !r.2.cache.ex_flags.bcons then -1 else r.2.cache.ex_pathlen, r.2)

/-! ## Return values of the cache function -/

theorem validity_zero_or_one (c : Cache) : validity c = 0 ∨ validity c = 1 := by
  unfold validity
  split_ifs <;> simp

theorem x509v3_cache_extensions_ne_zero (x : X509) :
    (x509v3_cache_extensions env x).1 ≠ 0 ↔ (x509v3_cache_extensions env x).1 = 1 := by
  have : (x509v3_cache_extensions env x).1 = 0 ∨ (x509v3_cache_extensions env x).1 = 1 := by
    unfold x509v3_cache_extensions
    split_ifs <;> exact validity_zero_or_one _
  omega

/-- A missing authority key identifier matches every issuer. -/
theorem X509_check_akid_none (issuer : X509) : X509_check_akid env issuer none = env.X509_V_OK :=
  rfl

/-! ## Calls in sequence

    An object goes through many calls: the callers of `v3_purp.c` ask it
    for purposes, flags and key identifiers in any order. `Call` names each
    entry point with its other arguments, and `runCalls` runs a sequence
    of them on one object, threading the object from call to call. The
    cache is filled by whichever call comes first, so no answer depends on
    the calls made before it. -/

/-- A call of an entry point of `v3_purp.c` on the object, with its other
    arguments; in `X509_check_issued` the object is the issuer or the
    subject. -/
inductive Call
  | check_purpose (id ca : Int)
  | check_ca
  | get_extension_flags
  | get_key_usage
  | get_extended_key_usage
  | get0_subject_key_id
  | get0_authority_key_id
  | get0_authority_issuer
  | get0_authority_serial
  | get_pathlen
  | check_issued_as_issuer (subject : X509)
  | check_issued_as_subject (issuer : X509)

/-- What an entry point returns. -/
inductive Answer
  | int (v : Int)
  | flags (f : ExFlags)
  | word (v : UInt32)
  | bytes (v : Option (List UInt8))
  | names (v : Option (List GeneralName))
  | serial (v : Option Int)

/-- A call on `x`: what it returns, and what it leaves of `x`. -/
def Call.run (x : X509) : Call → Answer × X509
  | .check_purpose id ca => let r := X509_check_purpose env x id ca; (.int r.1, r.2)
  | .check_ca => let r := X509_check_ca env x; (.int r.1, r.2)
  | .get_extension_flags => let r := X509_get_extension_flags env x; (.flags r.1, r.2)
  | .get_key_usage => let r := X509_get_key_usage env x; (.word r.1, r.2)
  | .get_extended_key_usage => let r := X509_get_extended_key_usage env x; (.word r.1, r.2)
  | .get0_subject_key_id => let r := X509_get0_subject_key_id env x; (.bytes r.1, r.2)
  | .get0_authority_key_id => let r := X509_get0_authority_key_id env x; (.bytes r.1, r.2)
  | .get0_authority_issuer => let r := X509_get0_authority_issuer env x; (.names r.1, r.2)
  | .get0_authority_serial => let r := X509_get0_authority_serial env x; (.serial r.1, r.2)
  | .get_pathlen => let r := X509_get_pathlen env x; (.int r.1, r.2)
  | .check_issued_as_issuer subject => let r := X509_check_issued env x subject; (.int r.1, r.2.1)
  | .check_issued_as_subject issuer => let r := X509_check_issued env issuer x; (.int r.1, r.2.2)

/-- A sequence of calls on one object: the answers in order, and the object
    at the end. -/
def runCalls : X509 → List Call → List Answer × X509
  | x, [] => ([], x)
  | x, c :: cs =>
    let r := c.run env x
    let rest := runCalls r.2 cs
    (r.1 :: rest.1, rest.2)

theorem x509v3_cache_extensions_cert (x : X509) : (x509v3_cache_extensions env x).2.cert = x.cert := by
  unfold x509v3_cache_extensions
  split <;> rfl

/-- One call leaves the object as it was or as the cache call leaves it. -/
theorem Call.run_obj (x : X509) (c : Call) :
    (c.run env x).2 = x ∨ (c.run env x).2 = (x509v3_cache_extensions env x).2 := by
  cases c with
  | check_purpose id ca =>
    right
    unfold Call.run X509_check_purpose
    dsimp only
    split_ifs <;> rfl
  | check_issued_as_issuer subject =>
    unfold Call.run X509_check_issued
    dsimp only
    split_ifs <;> simp
  | check_issued_as_subject issuer =>
    unfold Call.run X509_check_issued
    dsimp only
    split_ifs <;> simp
  | _ => exact .inr rfl

/-- A call answers on the cached object as on the object itself. -/
theorem Call.run_cached (x : X509) (c : Call) :
    (c.run env (x509v3_cache_extensions env x).2).1 = (c.run env x).1 := by
  cases c <;>
    simp only [Call.run, X509_check_purpose, X509_check_ca, X509_get_extension_flags,
      X509_get_key_usage, X509_get_extended_key_usage, X509_get0_subject_key_id,
      X509_get0_authority_key_id, X509_get0_authority_issuer, X509_get0_authority_serial,
      X509_get_pathlen, X509_check_issued, x509v3_cache_extensions_idem,
      x509v3_cache_extensions_cert, apply_ite Prod.fst]

/-- **No answer depends on the calls before it**: in every sequence of
    calls of the entry points of `v3_purp.c` on one object, each call
    returns what it returns when made first, on the object as it was; the
    object ends as it was, or as `x509v3_cache_extensions` leaves it. -/
theorem runCalls_history_independent (x : X509) (calls : List Call) :
    (runCalls env x calls).1 = calls.map (fun c => (c.run env x).1) ∧
      ((runCalls env x calls).2 = x ∨
        (runCalls env x calls).2 = (x509v3_cache_extensions env x).2) := by
  suffices h : ∀ y, (y = x ∨ y = (x509v3_cache_extensions env x).2) →
      (runCalls env y calls).1 = calls.map (fun c => (c.run env x).1) ∧
        ((runCalls env y calls).2 = x ∨
          (runCalls env y calls).2 = (x509v3_cache_extensions env x).2) from h x (.inl rfl)
  induction calls with
  | nil => exact fun y hy => ⟨rfl, hy⟩
  | cons c cs ih =>
    intro y hy
    -- the object after the call is still `x` or the cached `x`
    have hnext : (c.run env y).2 = x ∨ (c.run env y).2 = (x509v3_cache_extensions env x).2 := by
      rcases hy with rfl | rfl
      · exact Call.run_obj env y c
      · have hidem : (x509v3_cache_extensions env (x509v3_cache_extensions env x).2).2 =
            (x509v3_cache_extensions env x).2 := by rw [x509v3_cache_extensions_idem]
        exact .inr ((Call.run_obj env _ c).elim id (·.trans hidem))
    have hans : (c.run env y).1 = (c.run env x).1 := by
      rcases hy with rfl | rfl
      · rfl
      · exact Call.run_cached env x c
    obtain ⟨hrest, hend⟩ := ih _ hnext
    exact ⟨by rw [runCalls, List.map_cons, hans, hrest], hend⟩

end X509v3
