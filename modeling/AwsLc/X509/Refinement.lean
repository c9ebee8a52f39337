import AwsLc.X509.Concurrency
import AwsLc.X509.Purpose
import Mathlib.Logic.Relation

/-! # The shared cache refines an atomic object

    `X509.Concurrency` proves what never goes wrong under any interleaving.
    This file says what the callers see: the double-checked locking behaves
    as if each call of `x509v3_cache_extensions` ran at one point between
    its invocation and its return, as the one-thread function.

    The atomic object (`AtomicState`, `AtomicStep`) holds the `X509` and,
    for each thread, where its call is: not called, invoked, taken effect
    with a result, returned. A call takes effect in one step that applies
    `x509v3_cache_extensions` to the object. The refinement mapping
    (`SharedState.toAtomic`) shows the object as the initial cache until
    `EXFLAG_SET` is set, and the call of a thread as taken effect from the
    point where it saw `EXFLAG_SET` set (line 243 under the read lock, line
    251 under the write lock) or set it (line 406). Every step of a thread
    is a step of the atomic object or leaves the image unchanged
    (`Inv.toAtomic_step`), so every reachable state maps to a reachable
    state of the atomic object.

    On the atomic object every result is that of the first call, and after
    it the object is what the first call left (`AtomicReachable.inv`). Read
    back through the mapping: a thread that has returned holds the
    one-thread return value, and the object it sees then, and from then on,
    is the one-thread object.
-/

namespace X509v3

/-! ## Section 1: The atomic object -/

/-- Where a caller of `x509v3_cache_extensions` is, when each call takes
    effect at one point. -/
inductive CallPc
  | idle
  | invoked
  /-- The call has taken effect with the result `r`. -/
  | done (r : Int)
  | returned (r : Int)
  deriving DecidableEq, Repr

/-- The result a call has once it has taken effect. -/
def CallPc.result : CallPc → Option Int
  | .done r | .returned r => some r
  | _ => none

/-- The atomic object: the shared `X509` and the call of each thread. -/
structure AtomicState (Tid : Type) where
  pc : Tid → CallPc
  obj : X509

variable {Tid : Type} [DecidableEq Tid]

/-- The call of thread `t` moves to `p`. -/
def AtomicState.setPc (a : AtomicState Tid) (t : Tid) (p : CallPc) : AtomicState Tid :=
  { a with pc := Function.update a.pc t p }

@[simp] theorem AtomicState.setPc_pc (a : AtomicState Tid) (t : Tid) (p : CallPc) (u : Tid) :
    (a.setPc t p).pc u = if u = t then p else a.pc u := Function.update_apply _ _ _ _

@[simp] theorem AtomicState.setPc_obj (a : AtomicState Tid) (t : Tid) (p : CallPc) :
    (a.setPc t p).obj = a.obj := rfl

theorem AtomicState.setPc_self (a : AtomicState Tid) (t : Tid) : a.setPc t (a.pc t) = a := by
  simp [AtomicState.setPc]

variable (env : X509Env)

/-- One step of the atomic object: a call is invoked, takes effect as the
    one-thread `x509v3_cache_extensions` on the object, returns its result,
    or is left by its caller. -/
inductive AtomicStep : AtomicState Tid → AtomicState Tid → Prop
  | invoke (a : AtomicState Tid) (t : Tid) (h : a.pc t = .idle) :
      AtomicStep a (a.setPc t .invoked)
  | call (a : AtomicState Tid) (t : Tid) (h : a.pc t = .invoked) :
      AtomicStep a ⟨Function.update a.pc t (.done (x509v3_cache_extensions env a.obj).1),
        (x509v3_cache_extensions env a.obj).2⟩
  | respond (a : AtomicState Tid) (t : Tid) (r : Int) (h : a.pc t = .done r) :
      AtomicStep a (a.setPc t (.returned r))
  | finish (a : AtomicState Tid) (t : Tid) (r : Int) (h : a.pc t = .returned r) :
      AtomicStep a (a.setPc t .idle)

/-- The states of the atomic object reachable from the object `x0`. -/
inductive AtomicReachable (x0 : X509) : AtomicState Tid → Prop
  | init : AtomicReachable x0 ⟨fun _ => .idle, x0⟩
  | step {a a' : AtomicState Tid} : AtomicReachable x0 a → AtomicStep env a a' →
      AtomicReachable x0 a'

/-- A call step given by the fields of the state it reaches. -/
theorem AtomicStep.call_of {a a' : AtomicState Tid} {t : Tid} (h : a.pc t = .invoked)
    (hpc : a'.pc = Function.update a.pc t (.done (x509v3_cache_extensions env a.obj).1))
    (hobj : a'.obj = (x509v3_cache_extensions env a.obj).2) : AtomicStep env a a' := by
  obtain ⟨pc', obj'⟩ := a'
  dsimp only at hpc hobj
  subst hpc hobj
  exact .call a t h

/-! ## Section 2: What the atomic object guarantees -/

/-- Every result is that of the first call, and once a call has taken
    effect the object is what that call left. -/
structure AtomicInv (x0 : X509) (a : AtomicState Tid) : Prop where
  obj : a.obj = x0 ∨ a.obj = (x509v3_cache_extensions env x0).2
  results : ∀ t r, (a.pc t).result = some r →
    r = (x509v3_cache_extensions env x0).1 ∧ a.obj = (x509v3_cache_extensions env x0).2

variable {env} {x0 : X509} {a a' : AtomicState Tid}

/-- A call on the object before or after the first returns what the first
    returned and leaves what it left. -/
theorem x509v3_cache_extensions_of_obj {x : X509}
    (h : x = x0 ∨ x = (x509v3_cache_extensions env x0).2) :
    x509v3_cache_extensions env x = x509v3_cache_extensions env x0 := by
  rcases h with rfl | rfl
  · rfl
  · exact x509v3_cache_extensions_idem env x0

theorem AtomicInv.setPc (hinv : AtomicInv env x0 a) {t : Tid} {p : CallPc}
    (hp : p.result = none ∨ p.result = (a.pc t).result) : AtomicInv env x0 (a.setPc t p) where
  obj := hinv.obj
  results u r hu := by
    by_cases hut : u = t
    · subst hut
      rw [AtomicState.setPc_pc, if_pos rfl] at hu
      rcases hp with hp | hp
      · simp [hp] at hu
      · exact hinv.results u r (hp ▸ hu)
    · rw [AtomicState.setPc_pc, if_neg hut] at hu
      exact hinv.results u r hu

theorem AtomicInv.call (hinv : AtomicInv env x0 a) (t : Tid) :
    AtomicInv env x0 ⟨Function.update a.pc t (.done (x509v3_cache_extensions env a.obj).1),
      (x509v3_cache_extensions env a.obj).2⟩ := by
  have hcall := x509v3_cache_extensions_of_obj hinv.obj
  refine ⟨.inr (by rw [hcall]), fun u r hu => ?_⟩
  dsimp only at hu ⊢
  rw [hcall] at hu ⊢
  by_cases hut : u = t
  · subst hut
    simp only [Function.update_same, CallPc.result, Option.some.injEq] at hu
    exact ⟨hu.symm, rfl⟩
  · rw [Function.update_noteq hut] at hu
    exact ⟨(hinv.results u r hu).1, rfl⟩

theorem AtomicInv.step (hinv : AtomicInv env x0 a) (hstep : AtomicStep env a a') :
    AtomicInv env x0 a' := by
  cases hstep with
  | invoke t _ => exact hinv.setPc (.inl rfl)
  | call t _ => exact hinv.call t
  | respond t r h => exact hinv.setPc (.inr (by simp [h, CallPc.result]))
  | finish t r _ => exact hinv.setPc (.inl rfl)

/-- Every reachable state of the atomic object satisfies `AtomicInv`. -/
theorem AtomicReachable.inv (ha : AtomicReachable env x0 a) : AtomicInv env x0 a := by
  induction ha with
  | init => exact ⟨.inl rfl, fun _ _ h => by simp [CallPc.result] at h⟩
  | step _ hstep ih => exact ih.step hstep

/-! ## Section 3: The refinement mapping -/

/-- A program point seen from the caller, `r` being the result of the
    call: it takes effect where the thread reads `EXFLAG_SET` set (lines 243
    and 251) or sets it (line 406). -/
def Pc.toCall (r : Int) : Pc → CallPc
  | .idle => .idle
  | .readLocked | .readSet false | .wantWrite | .writeLocked | .computing _ => .invoked
  | .readSet true | .setUnderWrite | .marked | .returning => .done r
  | .returned r' => .returned r'

variable (env) (cert : Cert) (c0 : Cache)

/-- The refinement mapping: the object shows the initial cache until
    `EXFLAG_SET` is set, and the cache itself from then on. -/
def SharedState.toAtomic (s : SharedState Tid) : AtomicState Tid :=
  ⟨fun t => (s.pc t).toCall (validity (computedCache env cert c0)),
    ⟨cert, if s.cache.ex_flags.set then s.cache else c0⟩⟩

theorem toAtomic_setPc (s : SharedState Tid) (t : Tid) (p : Pc) :
    (s.setPc t p).toAtomic env cert c0 =
      (s.toAtomic env cert c0).setPc t (p.toCall (validity (computedCache env cert c0))) := by
  simp only [SharedState.toAtomic, SharedState.setPc, AtomicState.setPc, AtomicState.mk.injEq,
    and_true]
  exact Function.comp_update (Pc.toCall _) s.pc t p

/-- The first call on the initial object returns the validity of the
    computed cache and leaves that cache. -/
theorem x509v3_cache_extensions_init (h0 : c0.ex_flags.set = false) :
    x509v3_cache_extensions env ⟨cert, c0⟩ =
      (validity (computedCache env cert c0), ⟨cert, computedCache env cert c0⟩) :=
  x509v3_cache_extensions_unset env ⟨cert, c0⟩ h0

omit [DecidableEq Tid] in
theorem toAtomic_init (h0 : c0.ex_flags.set = false) :
    (SharedState.init c0 : SharedState Tid).toAtomic env cert c0 = ⟨fun _ => .idle, ⟨cert, c0⟩⟩ := by
  simp [SharedState.toAtomic, SharedState.init, h0, Pc.toCall]

variable {env cert c0} {s s' : SharedState Tid} {t : Tid}

/-- A step of thread `t` that keeps the cache and the image of its program
    point leaves the image unchanged. -/
theorem toAtomic_setPc_self {p : Pc}
    (h : p.toCall (validity (computedCache env cert c0)) =
      (s.pc t).toCall (validity (computedCache env cert c0))) :
    (s.setPc t p).toAtomic env cert c0 = s.toAtomic env cert c0 := by
  rw [toAtomic_setPc, h]
  exact AtomicState.setPc_self _ t

omit [DecidableEq Tid] in
theorem toAtomic_obj_unset (h : s.cache.ex_flags.set = false) :
    (s.toAtomic env cert c0).obj = ⟨cert, c0⟩ := by
  simp [SharedState.toAtomic, h]

/-- The call of a thread that reads `EXFLAG_SET` set takes effect there. -/
theorem Inv.call_of_set (hinv : Inv env cert c0 s) {p : Pc}
    (hpc : (s.pc t).toCall (validity (computedCache env cert c0)) = .invoked)
    (hp : p.toCall (validity (computedCache env cert c0)) = .done (validity (computedCache env cert c0)))
    (hset : s.cache.ex_flags.set = true) :
    AtomicStep env (s.toAtomic env cert c0) ((s.setPc t p).toAtomic env cert c0) := by
  have hobj : (s.toAtomic env cert c0).obj = ⟨cert, s.cache⟩ := by
    simp [SharedState.toAtomic, hset]
  have hcall : x509v3_cache_extensions env (s.toAtomic env cert c0).obj =
      (validity (computedCache env cert c0), ⟨cert, s.cache⟩) := by
    rw [hobj, x509v3_cache_extensions, if_pos hset, (hinv.set_final hset).2]
  refine AtomicStep.call_of env hpc ?_ ?_
  · rw [hcall, toAtomic_setPc, hp]
    rfl
  · rw [hcall]
    simp [SharedState.toAtomic, hset]

/-- **One step of the threads is one step of the atomic object, or none.** -/
theorem Inv.toAtomic_step (h0 : c0.ex_flags.set = false) (hinv : Inv env cert c0 s)
    (hstep : Step env cert s s') :
    AtomicStep env (s.toAtomic env cert c0) (s'.toAtomic env cert c0) ∨
      s'.toAtomic env cert c0 = s.toAtomic env cert c0 := by
  cases hstep with
  | lock_read t hpc _ =>
    left
    show AtomicStep env _ ((s.setPc t .readLocked).toAtomic env cert c0)
    rw [toAtomic_setPc]
    exact .invoke _ t (by simp [SharedState.toAtomic, hpc, Pc.toCall])
  | read_set t hpc =>
    cases hset : s.cache.ex_flags.set
    · exact .inr (toAtomic_setPc_self (by rw [hpc]; rfl))
    · exact .inl (hinv.call_of_set (by rw [hpc]; rfl) rfl hset)
  | unlock_read t b hpc =>
    exact .inr (toAtomic_setPc_self (by cases b <;> rw [hpc] <;> rfl))
  | lock_write t hpc _ _ => exact .inr (toAtomic_setPc_self (by rw [hpc]; rfl))
  | recheck_set t hpc hset => exact .inl (hinv.call_of_set (by rw [hpc]; rfl) rfl hset)
  | start t hpc _ => exact .inr (toAtomic_setPc_self (by rw [hpc]; rfl))
  | block t k f hpc hf =>
    have hset := hinv.unset_of_computing h0 hpc
    have hset' : (f s.cache).ex_flags.set = false :=
      (cacheBlocks_set env cert f (List.getElem?_mem hf) _).trans hset
    right
    rw [← toAtomic_setPc_self (s := s) (t := t) (p := .computing (k + 1)) (by rw [hpc]; rfl)]
    simp [SharedState.toAtomic, hset, hset']
  | mark t hpc =>
    obtain ⟨-, -, hcache⟩ := hinv.computing hpc
    have hset := hinv.unset_of_computing h0 hpc
    refine .inl (AtomicStep.call_of env (t := t) (by simp [SharedState.toAtomic, hpc, Pc.toCall]) ?_ ?_)
    all_goals rw [toAtomic_obj_unset hset, x509v3_cache_extensions_init env cert c0 h0]
    · show ((s.setPc t .marked).toAtomic env cert c0).pc = _
      rw [toAtomic_setPc]
      rfl
    · show (⟨cert, if s.cache.markSet.ex_flags.set then s.cache.markSet else c0⟩ : X509) = _
      rw [hcache]
      rfl
  | unlock_set t hpc => exact .inr (toAtomic_setPc_self (by rw [hpc]; rfl))
  | unlock_marked t hpc => exact .inr (toAtomic_setPc_self (by rw [hpc]; rfl))
  | ret t hpc =>
    have hset : s.cache.ex_flags.set = true := by
      simpa [hpc, ThreadOk] using hinv.threads t
    left
    rw [toAtomic_setPc, (hinv.set_final hset).2]
    exact .respond _ t _ (by simp [SharedState.toAtomic, hpc, Pc.toCall])
  | finish t r hpc =>
    left
    rw [toAtomic_setPc]
    exact .finish _ t r (by simp [SharedState.toAtomic, hpc, Pc.toCall])

/-- Every reachable state maps to a reachable state of the atomic object. -/
theorem Reachable.toAtomic (h0 : c0.ex_flags.set = false) (hs : Reachable env cert c0 s) :
    AtomicReachable env ⟨cert, c0⟩ (s.toAtomic env cert c0) := by
  induction hs with
  | init =>
    rw [toAtomic_init env cert c0 h0]
    exact .init
  | step hs hstep ih =>
    rcases (hs.inv h0).toAtomic_step h0 hstep with h | h
    · exact ih.step h
    · exact h ▸ ih

/-- Once `EXFLAG_SET` is set, no run of the threads changes the cache. -/
theorem Reachable.cache_frozen (h0 : c0.ex_flags.set = false) (hs : Reachable env cert c0 s)
    (hset : s.cache.ex_flags.set = true) :
    ∀ s', Relation.ReflTransGen (Step env cert) s s' → s'.cache = s.cache := by
  intro s' hrun
  suffices Reachable env cert c0 s' ∧ s'.cache = s.cache from this.2
  induction hrun with
  | refl => exact ⟨hs, rfl⟩
  | tail _ hstep ih =>
    exact ⟨ih.1.step hstep, ((ih.1.inv h0).cache_stable h0 hstep (ih.2 ▸ hset)).trans ih.2⟩

/-! ## Section 4: The callers' view -/

/-- **The shared cache refines the atomic object**, for any number of
    threads: the initial state maps to the initial object with every thread
    idle; every step of a thread from a reachable state is a step of the
    atomic object or leaves the image unchanged; so every reachable state
    maps to a reachable state of the atomic object, in which each call is
    one run of the one-thread `x509v3_cache_extensions`. -/
theorem x509v3_cache_extensions_refines (h0 : c0.ex_flags.set = false) :
    (SharedState.init c0 : SharedState Tid).toAtomic env cert c0 = ⟨fun _ => .idle, ⟨cert, c0⟩⟩ ∧
      (∀ s s' : SharedState Tid, Reachable env cert c0 s → Step env cert s s' →
        AtomicStep env (s.toAtomic env cert c0) (s'.toAtomic env cert c0) ∨
          s'.toAtomic env cert c0 = s.toAtomic env cert c0) ∧
      ∀ s : SharedState Tid, Reachable env cert c0 s →
        AtomicReachable env ⟨cert, c0⟩ (s.toAtomic env cert c0) :=
  ⟨toAtomic_init env cert c0 h0, fun _ _ hs hstep => (hs.inv h0).toAtomic_step h0 hstep,
    fun _ hs => hs.toAtomic h0⟩

/-- **Linearizability**: a thread that has returned `r` holds what the
    one-thread call on the initial object returns, the object is then what
    that call leaves, and no later step changes it. So every getter the
    thread calls afterwards reads what it reads after the one-thread call. -/
theorem x509v3_cache_extensions_linearizable (h0 : c0.ex_flags.set = false)
    (hs : Reachable env cert c0 s) :
    ∀ t r, s.pc t = .returned r →
      (r, ({ cert := cert, cache := s.cache } : X509)) = x509v3_cache_extensions env ⟨cert, c0⟩ ∧
        ∀ s', Relation.ReflTransGen (Step env cert) s s' → s'.cache = s.cache := by
  intro t r hret
  obtain ⟨hr, hobj⟩ := (hs.toAtomic h0).inv.results t r
    (by simp [SharedState.toAtomic, hret, Pc.toCall, CallPc.result])
  rw [x509v3_cache_extensions_init env cert c0 h0] at hr hobj ⊢
  have hc : s.cache = computedCache env cert c0 := by
    cases hset : s.cache.ex_flags.set <;>
      simp only [SharedState.toAtomic, hset, Bool.false_eq_true, if_true, if_false,
        X509.mk.injEq, true_and] at hobj
    · have := computedCache_set env cert c0
      rw [← hobj] at this
      simp [h0] at this
    · exact hobj
  exact ⟨by rw [hr, hc], hs.cache_frozen h0 (hc ▸ computedCache_set env cert c0)⟩

/-- Two threads on the sample CA certificate refine the atomic object. -/
theorem x509v3_cache_extensions_refines_sample :
    Cache.fresh.ex_flags.set = false ∧
      ((SharedState.init Cache.fresh : SharedState (Fin 2)).toAtomic sampleEnv sampleCaCert
          Cache.fresh = ⟨fun _ => .idle, ⟨sampleCaCert, Cache.fresh⟩⟩ ∧
        (∀ s s' : SharedState (Fin 2), Reachable sampleEnv sampleCaCert Cache.fresh s →
          Step sampleEnv sampleCaCert s s' →
          AtomicStep sampleEnv (s.toAtomic sampleEnv sampleCaCert Cache.fresh)
              (s'.toAtomic sampleEnv sampleCaCert Cache.fresh) ∨
            s'.toAtomic sampleEnv sampleCaCert Cache.fresh =
              s.toAtomic sampleEnv sampleCaCert Cache.fresh) ∧
        ∀ s : SharedState (Fin 2), Reachable sampleEnv sampleCaCert Cache.fresh s →
          AtomicReachable sampleEnv ⟨sampleCaCert, Cache.fresh⟩
            (s.toAtomic sampleEnv sampleCaCert Cache.fresh)) :=
  ⟨rfl, x509v3_cache_extensions_refines rfl⟩

/-- Two threads on the sample CA certificate: the theorem applied where
    thread 0, alone, has returned. -/
theorem x509v3_cache_extensions_linearizable_sample :
    Cache.fresh.ex_flags.set = false ∧
      ∃ s : SharedState (Fin 2), Reachable sampleEnv sampleCaCert Cache.fresh s ∧
        s.pc 0 = .returned (validity (computedCache sampleEnv sampleCaCert Cache.fresh)) ∧
        ∀ t r, s.pc t = .returned r →
          (r, (⟨sampleCaCert, s.cache⟩ : X509)) =
              x509v3_cache_extensions sampleEnv ⟨sampleCaCert, Cache.fresh⟩ ∧
            ∀ s', Relation.ReflTransGen (Step sampleEnv sampleCaCert) s s' → s'.cache = s.cache :=
  ⟨rfl, (solo_returned rfl 0).imp fun _ ⟨hs, hpc, _⟩ =>
    ⟨hs, hpc, x509v3_cache_extensions_linearizable rfl hs⟩⟩

end X509v3
