import AwsLc.X509.Cache
import Mathlib.Logic.Relation

/-! # Threads sharing one certificate's extension cache

    `x509v3_cache_extensions` is called on a shared `X509` by any number of
    threads, directly or through `X509_check_purpose`, `X509_check_ca`,
    `X509_check_issued`, `X509_get_extension_flags` and the other getters,
    which only read the cache after the call. It is double-checked locking
    over a reader-writer lock:

    * under the read lock, read `EXFLAG_SET`; if it was set, return;
    * else take the write lock and read `EXFLAG_SET` again; if set, unlock
      and return;
    * else run the blocks of lines 256-400, set `EXFLAG_SET`, unlock, return.

    Each return reads `ex_flags` again, after the lock is released.

    The model is a step relation on the program points of all threads
    (`Pc`), the lock (`RWLock`: a set of readers and at most one writer)
    and the cache; every step is one shared access or lock operation of one
    thread, so every interleaving is a run. A ghost counter `runs` counts
    the entries into the computation. `Inv` is the inductive invariant,
    proved for one step (`Inv.step`) and then for every reachable state; the
    main theorem reads the three safety properties off it: one thread at a
    time and one run in all, a cache that never changes once `EXFLAG_SET`
    is set, and every return reporting `EXFLAG_INVALID` as that run left it.
-/

namespace X509v3

/-! ## Section 1: The model -/

/-- Where a thread is in `x509v3_cache_extensions`. -/
inductive Pc
  /-- Outside the function. -/
  | idle
  /-- Line 243: holds the read lock. -/
  | readLocked
  /-- Line 244: has read `EXFLAG_SET` as `is_set`, still holds the read lock. -/
  | readSet (is_set : Bool)
  /-- Line 250: released the read lock, having seen `EXFLAG_SET` clear. -/
  | wantWrite
  /-- Line 251: holds the write lock. -/
  | writeLocked
  /-- Line 252: found `EXFLAG_SET` under the write lock. -/
  | setUnderWrite
  /-- Lines 256-400: holds the write lock, has run the first `k` blocks. -/
  | computing (k : Nat)
  /-- Line 406: has set `EXFLAG_SET`, holds the write lock. -/
  | marked
  /-- Lines 247, 253 and 409: about to read `ex_flags` and return. -/
  | returning
  /-- Returned `r` to its caller. -/
  | returned (r : Int)
  deriving DecidableEq, Repr

/-- The program points that hold the read lock. -/
def Pc.holdsRead : Pc → Bool
  | .readLocked | .readSet _ => true
  | _ => false

/-- The program points that hold the write lock. -/
def Pc.holdsWrite : Pc → Bool
  | .writeLocked | .setUnderWrite | .computing _ | .marked => true
  | _ => false

/-- The program points inside lines 256-406. -/
def Pc.inComputation : Pc → Bool
  | .computing _ | .marked => true
  | _ => false

/-- The program points reached only after `EXFLAG_SET` was seen set. -/
def Pc.sawSet : Pc → Bool
  | .readSet true | .setUnderWrite | .returning => true
  | _ => false

theorem Pc.holdsWrite_of_inComputation {p : Pc} (h : p.inComputation = true) :
    p.holdsWrite = true := by
  cases p <;> simp_all [Pc.inComputation, Pc.holdsWrite]

/-- `x->lock`: the threads that hold it for reading, and the writer. -/
structure RWLock (Tid : Type) where
  readers : Tid → Bool
  writer : Option Tid

/-- The threads, the lock and the cache of the shared `X509`, with the
    ghost count of runs of the computation. -/
structure SharedState (Tid : Type) where
  pc : Tid → Pc
  lock : RWLock Tid
  cache : Cache
  runs : Nat

variable {Tid : Type}

/-- The writer changes. -/
def SharedState.setWriter (s : SharedState Tid) (w : Option Tid) : SharedState Tid :=
  { s with lock := { s.lock with writer := w } }

/-- The state before any call: every thread idle, the lock free. -/
def SharedState.init (c0 : Cache) : SharedState Tid :=
  ⟨fun _ => .idle, ⟨fun _ => false, none⟩, c0, 0⟩

@[simp] theorem setWriter_writer (s : SharedState Tid) (w : Option Tid) :
    (s.setWriter w).lock.writer = w := rfl

@[simp] theorem setWriter_readers (s : SharedState Tid) (w : Option Tid) :
    (s.setWriter w).lock.readers = s.lock.readers := rfl

@[simp] theorem setWriter_pc (s : SharedState Tid) (w : Option Tid) :
    (s.setWriter w).pc = s.pc := rfl

@[simp] theorem setWriter_cache (s : SharedState Tid) (w : Option Tid) :
    (s.setWriter w).cache = s.cache := rfl

@[simp] theorem setWriter_runs (s : SharedState Tid) (w : Option Tid) :
    (s.setWriter w).runs = s.runs := rfl

/-! ## Section 2: The blocks, one at a time -/

section Blocks

variable (env : X509Env) (cert : Cert)

theorem runBlocks_zero (c : Cache) : runBlocks env cert 0 c = c := rfl

theorem runBlocks_succ {k : Nat} {f : Cache → Cache} (hf : (cacheBlocks env cert)[k]? = some f)
    (c : Cache) : runBlocks env cert (k + 1) c = f (runBlocks env cert k c) := by
  rw [runBlocks, List.take_succ, hf, List.foldl_append]
  rfl

theorem succ_le_length {k : Nat} {f : Cache → Cache}
    (hf : (cacheBlocks env cert)[k]? = some f) : k + 1 ≤ (cacheBlocks env cert).length :=
  (List.getElem?_eq_some_iff.mp hf).1

/-! ## Section 3: The invariant -/

variable (c0 : Cache)

/-- What a thread's program point tells about the cache and the runs. -/
def ThreadOk (cache : Cache) (runs : Nat) : Pc → Prop
  | .computing k =>
    runs = 1 ∧ k ≤ (cacheBlocks env cert).length ∧ cache = runBlocks env cert k c0
  | .marked => cache = computedCache env cert c0
  | .readSet true | .setUnderWrite | .returning => cache.ex_flags.set = true
  | .returned r => r = validity (computedCache env cert c0)
  | _ => True

/-- The inductive invariant, relative to the initial cache `c0`. -/
structure Inv (s : SharedState Tid) : Prop where
  /-- The readers are the threads at a read-locked point. -/
  readers : ∀ t, s.lock.readers t = (s.pc t).holdsRead
  /-- The writer is the thread at a write-locked point. -/
  writer : ∀ t, s.lock.writer = some t ↔ (s.pc t).holdsWrite = true
  /-- Never a reader and a writer at once. -/
  exclusive : s.lock.writer ≠ none → ∀ t, s.lock.readers t = false
  runs_le : s.runs ≤ 1
  /-- Before the run the cache is untouched. -/
  fresh : s.runs = 0 → s.cache = c0
  /-- `EXFLAG_SET` is set only by the run, at its end. -/
  set_final : s.cache.ex_flags.set = true → s.runs = 1 ∧ s.cache = computedCache env cert c0
  /-- A run that has not set `EXFLAG_SET` is still going on. -/
  unset_running : s.cache.ex_flags.set = false → s.runs = 1 → ∃ t k, s.pc t = .computing k
  /-- Each thread's program point is consistent with the cache. -/
  threads : ∀ t, ThreadOk env cert c0 s.cache s.runs (s.pc t)

variable {env cert c0}

/-- A thread that holds no lock and has not seen `EXFLAG_SET` tells nothing
    about the cache. -/
theorem ThreadOk.transfer {cache cache' : Cache} {runs runs' : Nat} {p : Pc}
    (hw : p.holdsWrite = false) (hs : p.sawSet = false)
    (h : ThreadOk env cert c0 cache runs p) : ThreadOk env cert c0 cache' runs' p := by
  cases p with
  | readSet b => cases b <;> simp_all [ThreadOk, Pc.sawSet]
  | _ => simp_all [ThreadOk, Pc.holdsWrite, Pc.sawSet]

theorem Inv.init (h0 : c0.ex_flags.set = false) :
    Inv env cert c0 (SharedState.init c0 : SharedState Tid) where
  readers _ := rfl
  writer _ := by simp [SharedState.init, Pc.holdsWrite]
  exclusive h := absurd rfl h
  runs_le := by simp [SharedState.init]
  fresh _ := rfl
  set_final h := by simp [SharedState.init, h0] at h
  unset_running _ h := by simp [SharedState.init] at h
  threads _ := trivial

section Facts

variable {s : SharedState Tid} (hinv : Inv env cert c0 s)
include hinv

/-- Two threads at write-locked points are the same thread. -/
theorem Inv.writer_unique {t u : Tid} (ht : (s.pc t).holdsWrite = true)
    (hu : (s.pc u).holdsWrite = true) : t = u :=
  Option.some_injective _ (((hinv.writer t).mpr ht).symm.trans ((hinv.writer u).mpr hu))

/-- Beside a thread at a write-locked point, no other thread is at one. -/
theorem Inv.holdsWrite_other {t u : Tid} (ht : (s.pc t).holdsWrite = true) (hu : u ≠ t) :
    (s.pc u).holdsWrite = false :=
  Bool.eq_false_iff.mpr fun h => hu (hinv.writer_unique h ht)

/-- With the write lock free, no thread is at a write-locked point. -/
theorem Inv.holdsWrite_free (hw : s.lock.writer = none) (u : Tid) :
    (s.pc u).holdsWrite = false :=
  Bool.eq_false_iff.mpr fun h => by simpa [hw] using (hinv.writer u).mpr h

/-- While `EXFLAG_SET` is clear no thread has seen it set. -/
theorem Inv.sawSet_unset (hset : s.cache.ex_flags.set = false) (u : Tid) :
    (s.pc u).sawSet = false := by
  have := hinv.threads u
  revert this
  cases s.pc u with
  | readSet b => cases b <;> simp_all [ThreadOk, Pc.sawSet]
  | _ => simp_all [ThreadOk, Pc.sawSet]

/-- A thread running the blocks sees `EXFLAG_SET` clear. -/
theorem Inv.unset_of_computing (h0 : c0.ex_flags.set = false) {t : Tid} {k : Nat}
    (hpc : s.pc t = .computing k) : s.cache.ex_flags.set = false := by
  have := hinv.threads t
  rw [hpc] at this
  rw [this.2.2, runBlocks_set, h0]

/-- The facts a thread running the blocks has. -/
theorem Inv.computing {t : Tid} {k : Nat} (hpc : s.pc t = .computing k) :
    s.runs = 1 ∧ k ≤ (cacheBlocks env cert).length ∧ s.cache = runBlocks env cert k c0 := by
  have := hinv.threads t
  rwa [hpc] at this

end Facts

end Blocks

/-! ## Section 4: Steps -/

section Steps

variable [DecidableEq Tid]

/-- Thread `t` moves to `p`. -/
def SharedState.setPc (s : SharedState Tid) (t : Tid) (p : Pc) : SharedState Tid :=
  { s with pc := Function.update s.pc t p }

/-- Thread `t` takes (`true`) or releases (`false`) the read lock. -/
def SharedState.setReader (s : SharedState Tid) (t : Tid) (b : Bool) : SharedState Tid :=
  { s with lock := { s.lock with readers := Function.update s.lock.readers t b } }

variable (env : X509Env) (cert : Cert)


/-- One step of one thread `t`. -/
inductive Step : SharedState Tid → SharedState Tid → Prop
  /-- `CRYPTO_MUTEX_lock_read`: waits while a writer holds the lock. -/
  | lock_read (s : SharedState Tid) (t : Tid) (hpc : s.pc t = .idle)
      (hw : s.lock.writer = none) :
      Step s ((s.setPc t .readLocked).setReader t true)
  /-- `is_set = x->ex_flags & EXFLAG_SET` -/
  | read_set (s : SharedState Tid) (t : Tid) (hpc : s.pc t = .readLocked) :
      Step s (s.setPc t (.readSet s.cache.ex_flags.set))
  /-- `CRYPTO_MUTEX_unlock_read`, then the branch on `is_set`. -/
  | unlock_read (s : SharedState Tid) (t : Tid) (b : Bool) (hpc : s.pc t = .readSet b) :
      Step s ((s.setPc t (if b then .returning else .wantWrite)).setReader t false)
  /-- `CRYPTO_MUTEX_lock_write`: waits while anyone holds the lock. -/
  | lock_write (s : SharedState Tid) (t : Tid) (hpc : s.pc t = .wantWrite)
      (hw : s.lock.writer = none) (hr : ∀ u, s.lock.readers u = false) :
      Step s ((s.setPc t .writeLocked).setWriter (some t))
  /-- `if (x->ex_flags & EXFLAG_SET)` under the write lock, taken. -/
  | recheck_set (s : SharedState Tid) (t : Tid) (hpc : s.pc t = .writeLocked)
      (hset : s.cache.ex_flags.set = true) :
      Step s (s.setPc t .setUnderWrite)
  /-- The same test, not taken: the computation starts. -/
  | start (s : SharedState Tid) (t : Tid) (hpc : s.pc t = .writeLocked)
      (hset : s.cache.ex_flags.set = false) :
      Step s { s.setPc t (.computing 0) with runs := s.runs + 1 }
  /-- One block of lines 256-400. -/
  | block (s : SharedState Tid) (t : Tid) (k : Nat) (f : Cache → Cache)
      (hpc : s.pc t = .computing k) (hf : (cacheBlocks env cert)[k]? = some f) :
      Step s { s.setPc t (.computing (k + 1)) with cache := f s.cache }
  /-- Line 406: `x->ex_flags |= EXFLAG_SET`. -/
  | mark (s : SharedState Tid) (t : Tid)
      (hpc : s.pc t = .computing (cacheBlocks env cert).length) :
      Step s { s.setPc t .marked with cache := s.cache.markSet }
  /-- `CRYPTO_MUTEX_unlock_write` of line 252. -/
  | unlock_set (s : SharedState Tid) (t : Tid) (hpc : s.pc t = .setUnderWrite) :
      Step s ((s.setPc t .returning).setWriter none)
  /-- `CRYPTO_MUTEX_unlock_write` of line 408. -/
  | unlock_marked (s : SharedState Tid) (t : Tid) (hpc : s.pc t = .marked) :
      Step s ((s.setPc t .returning).setWriter none)
  /-- `return (x->ex_flags & EXFLAG_INVALID) == 0` -/
  | ret (s : SharedState Tid) (t : Tid) (hpc : s.pc t = .returning) :
      Step s (s.setPc t (.returned (validity s.cache)))
  /-- The caller goes on, and may call again. -/
  | finish (s : SharedState Tid) (t : Tid) (r : Int) (hpc : s.pc t = .returned r) :
      Step s (s.setPc t .idle)

/-- The states reachable from a cache `c0` by any interleaving. -/
inductive Reachable (c0 : Cache) : SharedState Tid → Prop
  | init : Reachable c0 (SharedState.init c0)
  | step {s s' : SharedState Tid} : Reachable c0 s → Step env cert s s' → Reachable c0 s'

/-! ### Updates -/

@[simp] theorem setPc_pc (s : SharedState Tid) (t : Tid) (p : Pc) (u : Tid) :
    (s.setPc t p).pc u = if u = t then p else s.pc u := Function.update_apply _ _ _ _

@[simp] theorem setPc_lock (s : SharedState Tid) (t : Tid) (p : Pc) :
    (s.setPc t p).lock = s.lock := rfl

@[simp] theorem setPc_cache (s : SharedState Tid) (t : Tid) (p : Pc) :
    (s.setPc t p).cache = s.cache := rfl

@[simp] theorem setPc_runs (s : SharedState Tid) (t : Tid) (p : Pc) :
    (s.setPc t p).runs = s.runs := rfl

@[simp] theorem setReader_readers (s : SharedState Tid) (t : Tid) (b : Bool) (u : Tid) :
    (s.setReader t b).lock.readers u = if u = t then b else s.lock.readers u :=
  Function.update_apply _ _ _ _

@[simp] theorem setReader_writer (s : SharedState Tid) (t : Tid) (b : Bool) :
    (s.setReader t b).lock.writer = s.lock.writer := rfl

@[simp] theorem setReader_pc (s : SharedState Tid) (t : Tid) (b : Bool) :
    (s.setReader t b).pc = s.pc := rfl

@[simp] theorem setReader_cache (s : SharedState Tid) (t : Tid) (b : Bool) :
    (s.setReader t b).cache = s.cache := rfl

@[simp] theorem setReader_runs (s : SharedState Tid) (t : Tid) (b : Bool) :
    (s.setReader t b).runs = s.runs := rfl

/-! ### One step keeps the invariant -/

variable {env cert} {c0 : Cache} {s : SharedState Tid} {t : Tid}

/-- The lock clauses after thread `t` moves between points that hold the
    same locks. -/
theorem Inv.locks_setPc (hinv : Inv env cert c0 s) {p : Pc}
    (hread : p.holdsRead = (s.pc t).holdsRead) (hwrite : p.holdsWrite = (s.pc t).holdsWrite) :
    (∀ u, (s.setPc t p).lock.readers u = ((s.setPc t p).pc u).holdsRead) ∧
      ∀ u, (s.setPc t p).lock.writer = some u ↔ ((s.setPc t p).pc u).holdsWrite = true := by
  refine ⟨fun u => ?_, fun u => ?_⟩ <;> by_cases hu : u = t
  · simp [hu, hread, hinv.readers t]
  · simp [hu, hinv.readers u]
  · simp [hu, hwrite, hinv.writer t]
  · simp [hu, hinv.writer u]

/-- A step of thread `t` away from the blocks that leaves the cache and the
    runs as they were keeps the invariant, given the lock clauses and the
    clause of `t` itself. -/
theorem Inv.frame (hinv : Inv env cert c0 s) {s' : SharedState Tid}
    (hpc : ∀ u, u ≠ t → s'.pc u = s.pc u) (hc : s'.cache = s.cache) (hr : s'.runs = s.runs)
    (hnot : ∀ k, s.pc t ≠ .computing k) (ht : ThreadOk env cert c0 s.cache s.runs (s'.pc t))
    (hreaders : ∀ u, s'.lock.readers u = (s'.pc u).holdsRead)
    (hwriter : ∀ u, s'.lock.writer = some u ↔ (s'.pc u).holdsWrite = true)
    (hexcl : s'.lock.writer ≠ none → ∀ u, s'.lock.readers u = false) :
    Inv env cert c0 s' where
  readers := hreaders
  writer := hwriter
  exclusive := hexcl
  runs_le := hr ▸ hinv.runs_le
  fresh := hc ▸ hr ▸ hinv.fresh
  set_final := hc ▸ hr ▸ hinv.set_final
  unset_running hset hruns := by
    obtain ⟨u, k, hu⟩ := hinv.unset_running (hc ▸ hset) (hr ▸ hruns)
    have hut : u ≠ t := by rintro rfl; exact hnot k hu
    exact ⟨u, k, (hpc u hut).trans hu⟩
  threads u := by
    rw [hc, hr]
    by_cases hu : u = t
    · exact hu ▸ ht
    · exact hpc u hu ▸ hinv.threads u

section OneStep

variable (hinv : Inv env cert c0 s)
include hinv

theorem Inv.lock_read (hpc : s.pc t = .idle) (hw : s.lock.writer = none) :
    Inv env cert c0 ((s.setPc t .readLocked).setReader t true) := by
  refine hinv.frame (t := t) (fun u hu => by simp [hu]) rfl rfl (by simp [hpc]) (by simp [ThreadOk])
    (fun u => ?_) (fun u => ?_) (by simp [hw])
  · by_cases hu : u = t <;> simp [hu, hinv.readers u, Pc.holdsRead]
  · by_cases hu : u = t
    · simp [hu, hw, Pc.holdsWrite]
    · simp [hu, hw, hinv.holdsWrite_free hw u]

theorem Inv.read_set (hpc : s.pc t = .readLocked) :
    Inv env cert c0 (s.setPc t (.readSet s.cache.ex_flags.set)) := by
  obtain ⟨hreaders, hwriter⟩ := hinv.locks_setPc (t := t) (p := .readSet s.cache.ex_flags.set)
    (by simp [hpc, Pc.holdsRead]) (by simp [hpc, Pc.holdsWrite])
  refine hinv.frame (t := t) (fun u hu => by simp [hu]) rfl rfl (by simp [hpc]) ?_ hreaders hwriter
    (by simpa using hinv.exclusive)
  cases h : s.cache.ex_flags.set <;> simp [ThreadOk, h]

theorem Inv.unlock_read {b : Bool} (hpc : s.pc t = .readSet b) :
    Inv env cert c0 ((s.setPc t (if b then .returning else .wantWrite)).setReader t false) := by
  have hsaw : b = true → s.cache.ex_flags.set = true := by
    rintro rfl
    have := hinv.threads t
    rwa [hpc] at this
  refine hinv.frame (t := t) (fun u hu => by simp [hu]) rfl rfl (by simp [hpc]) ?_ (fun u => ?_)
    (fun u => ?_) ?_
  · cases b <;> simp_all [ThreadOk]
  · by_cases hu : u = t
    · cases b <;> simp [hu, Pc.holdsRead]
    · simp [hu, hinv.readers u]
  · by_cases hu : u = t
    · have := hinv.writer t
      cases b <;> simp_all [Pc.holdsWrite]
    · simp [hu, hinv.writer u]
  · intro hw u
    by_cases hu : u = t
    · simp [hu]
    · simpa [hu] using hinv.exclusive (by simpa using hw) u

theorem Inv.lock_write (hpc : s.pc t = .wantWrite) (hw : s.lock.writer = none)
    (hr : ∀ u, s.lock.readers u = false) :
    Inv env cert c0 ((s.setPc t .writeLocked).setWriter (some t)) := by
  refine hinv.frame (t := t) (fun u hu => by simp [hu]) rfl rfl (by simp [hpc]) (by simp [ThreadOk])
    (fun u => ?_) (fun u => ?_) (fun _ => by simpa using hr)
  · by_cases hu : u = t
    · simp [hu, hr, Pc.holdsRead]
    · simp [hu, hinv.readers u]
  · by_cases hu : u = t
    · simp [hu, Pc.holdsWrite]
    · simp [hu, Ne.symm hu, hinv.holdsWrite_free hw u]

theorem Inv.recheck_set (hpc : s.pc t = .writeLocked) (hset : s.cache.ex_flags.set = true) :
    Inv env cert c0 (s.setPc t .setUnderWrite) := by
  obtain ⟨hreaders, hwriter⟩ := hinv.locks_setPc (t := t) (p := .setUnderWrite)
    (by simp [hpc, Pc.holdsRead]) (by simp [hpc, Pc.holdsWrite])
  exact hinv.frame (t := t) (fun u hu => by simp [hu]) rfl rfl (by simp [hpc]) (by simp [ThreadOk, hset])
    hreaders hwriter (by simpa using hinv.exclusive)

theorem Inv.start (hpc : s.pc t = .writeLocked) (hset : s.cache.ex_flags.set = false) :
    Inv env cert c0 { s.setPc t (.computing 0) with runs := s.runs + 1 } := by
  have hw : (s.pc t).holdsWrite = true := by simp [hpc, Pc.holdsWrite]
  have hruns : s.runs = 0 := by
    by_contra h
    obtain ⟨u, k, hu⟩ := hinv.unset_running hset (by have := hinv.runs_le; omega)
    have : u = t := hinv.writer_unique (by simp [hu, Pc.holdsWrite]) hw
    simp [this, hpc] at hu
  refine ⟨fun u => ?_, fun u => ?_, by simpa using hinv.exclusive, by simp [hruns],
    fun h => by simp at h, fun h => by simp [hset] at h, fun _ _ => ⟨t, 0, by simp⟩, fun u => ?_⟩
  · by_cases hu : u = t
    · simp [hu, hinv.readers t, hpc, Pc.holdsRead]
    · simp [hu, hinv.readers u]
  · by_cases hu : u = t
    · simp [hu, (hinv.writer t).mpr hw, Pc.holdsWrite]
    · simp [hu, hinv.writer u]
  · by_cases hu : u = t
    · simp [hu, ThreadOk, hruns, hinv.fresh hruns, runBlocks_zero]
    · simpa [hu] using (hinv.threads u).transfer (hinv.holdsWrite_other hw hu)
        (hinv.sawSet_unset hset u)

theorem Inv.block (h0 : c0.ex_flags.set = false) {k : Nat} {f : Cache → Cache}
    (hpc : s.pc t = .computing k) (hf : (cacheBlocks env cert)[k]? = some f) :
    Inv env cert c0 { s.setPc t (.computing (k + 1)) with cache := f s.cache } := by
  have hw : (s.pc t).holdsWrite = true := by simp [hpc, Pc.holdsWrite]
  obtain ⟨hruns, -, hcache⟩ := hinv.computing hpc
  have hset := hinv.unset_of_computing h0 hpc
  have hset' : (f s.cache).ex_flags.set = false :=
    (cacheBlocks_set env cert f (List.getElem?_mem hf) _).trans hset
  refine ⟨fun u => ?_, fun u => ?_, by simpa using hinv.exclusive, hinv.runs_le,
    fun h => by simp [hruns] at h, fun h => by simp [hset'] at h,
    fun _ _ => ⟨t, k + 1, by simp⟩, fun u => ?_⟩
  · by_cases hu : u = t
    · simp [hu, hinv.readers t, hpc, Pc.holdsRead]
    · simp [hu, hinv.readers u]
  · by_cases hu : u = t
    · simp [hu, (hinv.writer t).mpr hw, Pc.holdsWrite]
    · simp [hu, hinv.writer u]
  · by_cases hu : u = t
    · simp [hu, ThreadOk, hruns, succ_le_length env cert hf, hcache, runBlocks_succ env cert hf]
    · simpa [hu] using (hinv.threads u).transfer (hinv.holdsWrite_other hw hu)
        (hinv.sawSet_unset hset u)

theorem Inv.mark (h0 : c0.ex_flags.set = false)
    (hpc : s.pc t = .computing (cacheBlocks env cert).length) :
    Inv env cert c0 { s.setPc t .marked with cache := s.cache.markSet } := by
  have hw : (s.pc t).holdsWrite = true := by simp [hpc, Pc.holdsWrite]
  obtain ⟨hruns, -, hcache⟩ := hinv.computing hpc
  have hset := hinv.unset_of_computing h0 hpc
  have hfinal : s.cache.markSet = computedCache env cert c0 := by rw [hcache]; rfl
  refine ⟨fun u => ?_, fun u => ?_, by simpa using hinv.exclusive, hinv.runs_le,
    fun h => by simp [hruns] at h, fun _ => ⟨hruns, hfinal⟩,
    fun h => by simp [Cache.markSet] at h, fun u => ?_⟩
  · by_cases hu : u = t
    · simp [hu, hinv.readers t, hpc, Pc.holdsRead]
    · simp [hu, hinv.readers u]
  · by_cases hu : u = t
    · simp [hu, (hinv.writer t).mpr hw, Pc.holdsWrite]
    · simp [hu, hinv.writer u]
  · by_cases hu : u = t
    · simp [hu, ThreadOk, hfinal]
    · simpa [hu] using (hinv.threads u).transfer (hinv.holdsWrite_other hw hu)
        (hinv.sawSet_unset hset u)

/-- Releasing the write lock from `from` to `returning`. -/
theorem Inv.unlock_write {p : Pc} (hpc : s.pc t = p) (hp : p = .setUnderWrite ∨ p = .marked) :
    Inv env cert c0 ((s.setPc t .returning).setWriter none) := by
  have hw : (s.pc t).holdsWrite = true := by rcases hp with rfl | rfl <;> simp [hpc, Pc.holdsWrite]
  have hset : s.cache.ex_flags.set = true := by
    have := hinv.threads t
    rcases hp with rfl | rfl
    · simpa [hpc, ThreadOk] using this
    · rw [hpc] at this
      simp only [ThreadOk] at this
      rw [this]
      rfl
  refine hinv.frame (t := t) (fun u hu => by simp [hu]) rfl rfl (by rcases hp with rfl | rfl <;> simp [hpc])
    (by simp [ThreadOk, hset]) (fun u => ?_) (fun u => ?_) (by simp)
  · by_cases hu : u = t
    · simp [hu, hinv.readers t, Pc.holdsRead]
      rcases hp with rfl | rfl <;> simp [hpc, Pc.holdsRead]
    · simp [hu, hinv.readers u]
  · by_cases hu : u = t
    · simp [hu, Pc.holdsWrite]
    · simp [hu, hinv.holdsWrite_other hw hu]

theorem Inv.ret (hpc : s.pc t = .returning) :
    Inv env cert c0 (s.setPc t (.returned (validity s.cache))) := by
  have hset : s.cache.ex_flags.set = true := by
    have := hinv.threads t
    simpa [hpc, ThreadOk] using this
  obtain ⟨hreaders, hwriter⟩ := hinv.locks_setPc (t := t) (p := .returned (validity s.cache))
    (by simp [hpc, Pc.holdsRead]) (by simp [hpc, Pc.holdsWrite])
  exact hinv.frame (t := t) (fun u hu => by simp [hu]) rfl rfl (by simp [hpc])
    (by simp [ThreadOk, (hinv.set_final hset).2]) hreaders hwriter (by simpa using hinv.exclusive)

theorem Inv.finish {r : Int} (hpc : s.pc t = .returned r) : Inv env cert c0 (s.setPc t .idle) := by
  obtain ⟨hreaders, hwriter⟩ := hinv.locks_setPc (t := t) (p := .idle)
    (by simp [hpc, Pc.holdsRead]) (by simp [hpc, Pc.holdsWrite])
  exact hinv.frame (t := t) (fun u hu => by simp [hu]) rfl rfl (by simp [hpc]) (by simp [ThreadOk])
    hreaders hwriter (by simpa using hinv.exclusive)

/-- **One step keeps the invariant.** -/
theorem Inv.step (h0 : c0.ex_flags.set = false) {s' : SharedState Tid}
    (hstep : Step env cert s s') : Inv env cert c0 s' := by
  cases hstep with
  | lock_read _ hpc hw => exact hinv.lock_read hpc hw
  | read_set _ hpc => exact hinv.read_set hpc
  | unlock_read _ _ hpc => exact hinv.unlock_read hpc
  | lock_write _ hpc hw hr => exact hinv.lock_write hpc hw hr
  | recheck_set _ hpc hset => exact hinv.recheck_set hpc hset
  | start _ hpc hset => exact hinv.start hpc hset
  | block _ _ _ hpc hf => exact hinv.block h0 hpc hf
  | mark _ hpc => exact hinv.mark h0 hpc
  | unlock_set _ hpc => exact hinv.unlock_write hpc (.inl rfl)
  | unlock_marked _ hpc => exact hinv.unlock_write hpc (.inr rfl)
  | ret _ hpc => exact hinv.ret hpc
  | finish _ _ hpc => exact hinv.finish hpc

end OneStep

/-- **Every reachable state satisfies the invariant.** -/
theorem Reachable.inv (h0 : c0.ex_flags.set = false) {s : SharedState Tid}
    (hs : Reachable env cert c0 s) : Inv env cert c0 s := by
  induction hs with
  | init => exact Inv.init h0
  | step _ hstep ih => exact ih.step h0 hstep

/-- Once `EXFLAG_SET` is set, no step changes the cache. -/
theorem Inv.cache_stable (hinv : Inv env cert c0 s) (h0 : c0.ex_flags.set = false)
    {s' : SharedState Tid} (hstep : Step env cert s s') (hset : s.cache.ex_flags.set = true) :
    s'.cache = s.cache := by
  cases hstep with
  | block _ _ _ hpc => simp [hinv.unset_of_computing h0 hpc] at hset
  | mark _ hpc => simp [hinv.unset_of_computing h0 hpc] at hset
  | _ => rfl

/-! ### A thread alone -/

/-- A reachable state reached again after more steps. -/
theorem Reachable.of_reflTransGen {s s' : SharedState Tid} (hs : Reachable env cert c0 s)
    (h : Relation.ReflTransGen (Step env cert) s s') : Reachable env cert c0 s' := by
  induction h with
  | refl => exact hs
  | tail _ hstep ih => exact ih.step hstep

/-- From the `k`-th block, the thread runs the remaining ones. -/
theorem blocks_reach :
    ∀ (m k : Nat) (s : SharedState Tid), k + m = (cacheBlocks env cert).length →
      s.pc t = .computing k → s.cache = runBlocks env cert k c0 →
      ∃ s', Relation.ReflTransGen (Step env cert) s s' ∧
        s'.pc t = .computing (cacheBlocks env cert).length ∧
        s'.cache = runBlocks env cert (cacheBlocks env cert).length c0
  | 0, k, s, hk, hpc, hc => ⟨s, .refl, by simpa using hk ▸ hpc, by simpa using hk ▸ hc⟩
  | m + 1, k, s, hk, hpc, hc => by
    have hk' : k < (cacheBlocks env cert).length := by omega
    obtain ⟨f, hf⟩ : ∃ f, (cacheBlocks env cert)[k]? = some f := ⟨_, List.getElem?_eq_getElem hk'⟩
    obtain ⟨s', hrun, hpc', hc'⟩ := blocks_reach m (k + 1)
      { s.setPc t (.computing (k + 1)) with cache := f s.cache } (by omega) (by simp)
      (by simp [hc, runBlocks_succ env cert hf])
    exact ⟨s', .head (.block s t k f hpc hf) hrun, hpc', hc'⟩

/-- A thread alone, from a cache with `EXFLAG_SET` clear, takes the read
    lock, reads the flag, gives the read lock up, takes the write lock,
    reads the flag again and enters the computation. -/
theorem solo_start (h0 : c0.ex_flags.set = false) (t : Tid) :
    ∃ s, Reachable env cert c0 s ∧ s.pc t = .computing 0 ∧ s.cache = c0 := by
  let s0 : SharedState Tid := SharedState.init c0
  let s1 := (s0.setPc t .readLocked).setReader t true
  let s2 := s1.setPc t (.readSet s1.cache.ex_flags.set)
  let s3 := (s2.setPc t (if c0.ex_flags.set then .returning else .wantWrite)).setReader t false
  let s4 := (s3.setPc t .writeLocked).setWriter (some t)
  have r1 : Reachable env cert c0 s1 := .step .init (.lock_read s0 t rfl rfl)
  have r2 : Reachable env cert c0 s2 := r1.step (.read_set s1 t (by simp [s1]))
  have r3 : Reachable env cert c0 s3 :=
    r2.step (.unlock_read s2 t _ (by simp [s2, s1, s0, SharedState.init]))
  have r4 : Reachable env cert c0 s4 := r3.step (.lock_write s3 t (by simp [s3, h0]) rfl
    (fun u => by by_cases hu : u = t <;> simp [s3, s2, s1, s0, hu, SharedState.init]))
  exact ⟨_, r4.step (.start s4 t (by simp [s4]) h0), by simp, rfl⟩

/-- The same thread then runs every block, sets `EXFLAG_SET`, releases the
    write lock and returns the validity of the computed cache, which the
    object now holds. -/
theorem solo_returned (h0 : c0.ex_flags.set = false) (t : Tid) :
    ∃ s, Reachable env cert c0 s ∧ s.pc t = .returned (validity (computedCache env cert c0)) ∧
      s.cache = computedCache env cert c0 := by
  obtain ⟨s5, r5, hpc5, hc5⟩ := solo_start h0 t
  obtain ⟨s6, hrun, hpc6, hc6⟩ := blocks_reach (cacheBlocks env cert).length 0 s5
    (Nat.zero_add _) hpc5 hc5
  let s7 := { s6.setPc t .marked with cache := s6.cache.markSet }
  have r7 : Reachable env cert c0 s7 := (r5.of_reflTransGen hrun).step (.mark s6 t hpc6)
  let s8 := (s7.setPc t .returning).setWriter none
  have r8 : Reachable env cert c0 s8 := r7.step (.unlock_marked s7 t (by simp [s7]))
  have hc8 : s8.cache = computedCache env cert c0 := by simp [s8, s7, hc6, computedCache]
  exact ⟨_, r8.step (.ret s8 t (by simp [s8])), by simp [hc8], hc8⟩

/-- **Safety of the extension cache**, for any number of threads and every
    interleaving: at most one thread is ever inside lines 256-406 and the
    computation is entered at most once; once `EXFLAG_SET` is set the cache
    holds what that run computed and no step changes it again; every call
    that returns reports `EXFLAG_INVALID` as that run computed it. -/
theorem x509v3_cache_extensions_safe (h0 : c0.ex_flags.set = false) {s : SharedState Tid}
    (hs : Reachable env cert c0 s) :
    (∀ t u, (s.pc t).inComputation = true → (s.pc u).inComputation = true → t = u) ∧
      s.runs ≤ 1 ∧
      (s.cache.ex_flags.set = true → s.cache = computedCache env cert c0) ∧
      (∀ s', Step env cert s s' → s.cache.ex_flags.set = true → s'.cache = s.cache) ∧
      ∀ t r, s.pc t = .returned r → r = validity (computedCache env cert c0) := by
  have hinv := hs.inv h0
  refine ⟨fun t u ht hu => hinv.writer_unique (Pc.holdsWrite_of_inComputation ht)
      (Pc.holdsWrite_of_inComputation hu), hinv.runs_le, fun h => (hinv.set_final h).2,
    fun _ hstep => hinv.cache_stable h0 hstep, fun t r h => ?_⟩
  have := hinv.threads t
  rwa [h] at this

end Steps

/-- Two threads on the sample CA certificate, from a fresh cache: the
    theorem applied where thread 0, alone, is inside the computation, and
    where it has returned with `EXFLAG_SET` set. -/
theorem x509v3_cache_extensions_safe_sample :
    Cache.fresh.ex_flags.set = false ∧
      (∃ s : SharedState (Fin 2), Reachable sampleEnv sampleCaCert Cache.fresh s ∧
        s.pc 0 = .computing 0 ∧
        (∀ t u, (s.pc t).inComputation = true → (s.pc u).inComputation = true → t = u) ∧
          s.runs ≤ 1 ∧
          (s.cache.ex_flags.set = true → s.cache = computedCache sampleEnv sampleCaCert Cache.fresh) ∧
          (∀ s', Step sampleEnv sampleCaCert s s' → s.cache.ex_flags.set = true → s'.cache = s.cache) ∧
          ∀ t r, s.pc t = .returned r → r = validity (computedCache sampleEnv sampleCaCert Cache.fresh)) ∧
      ∃ s : SharedState (Fin 2), Reachable sampleEnv sampleCaCert Cache.fresh s ∧
        s.pc 0 = .returned (validity (computedCache sampleEnv sampleCaCert Cache.fresh)) ∧
        s.cache.ex_flags.set = true ∧
        (∀ t u, (s.pc t).inComputation = true → (s.pc u).inComputation = true → t = u) ∧
          s.runs ≤ 1 ∧
          (s.cache.ex_flags.set = true → s.cache = computedCache sampleEnv sampleCaCert Cache.fresh) ∧
          (∀ s', Step sampleEnv sampleCaCert s s' → s.cache.ex_flags.set = true → s'.cache = s.cache) ∧
          ∀ t r, s.pc t = .returned r → r = validity (computedCache sampleEnv sampleCaCert Cache.fresh) :=
  ⟨rfl, (solo_start rfl 0).imp fun _ ⟨hs, hpc, _⟩ => ⟨hs, hpc, x509v3_cache_extensions_safe rfl hs⟩,
    (solo_returned rfl 0).imp fun _ ⟨hs, hpc, hc⟩ =>
      ⟨hs, hpc, by rw [hc]; rfl, x509v3_cache_extensions_safe rfl hs⟩⟩

end X509v3
