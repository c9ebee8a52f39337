import AwsLc.X509.Concurrency
import Mathlib.Algebra.Order.BigOperators.Group.Finset

/-! # Every call on the shared cache can complete

    `X509.Concurrency` proves what never happens. This file proves that the
    double-checked locking never traps a call. From every reachable state
    there is a schedule after which every thread that was inside
    `x509v3_cache_extensions` has returned, with the validity of the one
    computed cache, while the threads that were outside are still outside.

    The schedule is built one step at a time (`Inv.advance`): the thread
    holding the write lock moves on if there is one, else a thread holding
    the read lock, else any thread inside the call, which then finds the
    lock free. Each such step lowers the number of steps its thread still
    needs (`Pc.remaining`), and leaves the other threads where they are, so
    with finitely many threads the sum over all of them bounds the length of
    the schedule.
-/

namespace X509v3

variable {Tid : Type}

/-! ## Section 1: The measure -/

/-- A thread inside the call: neither before it nor returned. -/
def Pc.pending : Pc → Bool
  | .idle | .returned _ => false
  | _ => true

/-- The steps a thread at `p` still needs before it returns, along its
    longest path, with `n` blocks. -/
def Pc.remaining (n : Nat) : Pc → Nat
  | .idle => 0
  | .readLocked => n + 7
  | .readSet _ => n + 6
  | .wantWrite => n + 5
  | .writeLocked => n + 4
  | .setUnderWrite => 2
  | .computing k => n - k + 3
  | .marked => 2
  | .returning => 1
  | .returned _ => 0

theorem Pc.pending_of_holdsWrite {p : Pc} (h : p.holdsWrite = true) : p.pending = true := by
  cases p <;> simp_all [Pc.holdsWrite, Pc.pending]

theorem Pc.pending_of_holdsRead {p : Pc} (h : p.holdsRead = true) : p.pending = true := by
  cases p <;> simp_all [Pc.holdsRead, Pc.pending]

/-- A thread neither inside the call nor before it has returned. -/
theorem Pc.eq_returned {p : Pc} (h : p.pending = false) (hp : p ≠ .idle) : ∃ r, p = .returned r := by
  cases p <;> simp_all [Pc.pending]

section Advance

variable [DecidableEq Tid] {env : X509Env} {cert : Cert} {c0 : Cache} {s : SharedState Tid}

/-- Thread `u`, inside the call, moves closer to its return, and not out of
    the call by the front; the other threads do not move. -/
structure Advances (n : Nat) (s s' : SharedState Tid) (u : Tid) : Prop where
  pending : (s.pc u).pending = true
  others : ∀ v, v ≠ u → s'.pc v = s.pc v
  not_idle : s'.pc u ≠ .idle
  closer : (s'.pc u).remaining n < (s.pc u).remaining n

theorem Advances.of_setPc {n : Nat} {s' : SharedState Tid} {u : Tid} {p : Pc}
    (hpend : (s.pc u).pending = true) (hp : p ≠ .idle)
    (hlt : p.remaining n < (s.pc u).remaining n) (hs' : s'.pc = (s.setPc u p).pc) :
    Advances n s s' u :=
  ⟨hpend, fun v hv => by simp [hs', hv], by simpa [hs'] using hp, by simpa [hs'] using hlt⟩

/-- With finitely many threads, an advancing step lowers the sum of the
    remaining steps. -/
theorem Advances.sum_lt [Fintype Tid] {n : Nat} {s' : SharedState Tid} {u : Tid}
    (h : Advances n s s' u) : ∑ v, (s'.pc v).remaining n < ∑ v, (s.pc v).remaining n := by
  refine Finset.sum_lt_sum (fun v _ => ?_) ⟨u, Finset.mem_univ _, h.closer⟩
  by_cases hv : v = u
  · exact hv ▸ h.closer.le
  · rw [h.others v hv]

variable (hinv : Inv env cert c0 s)
include hinv

/-- The writer can always move. -/
theorem Inv.advance_writer {w : Tid} (hw : s.lock.writer = some w) :
    ∃ s' u, Step env cert s s' ∧ Advances (cacheBlocks env cert).length s s' u := by
  have hpw : (s.pc w).holdsWrite = true := (hinv.writer w).mp hw
  have hpend := Pc.pending_of_holdsWrite hpw
  cases hpc : s.pc w <;> simp only [hpc, Pc.holdsWrite, Bool.false_eq_true] at hpw
  case writeLocked =>
    cases hset : s.cache.ex_flags.set
    · exact ⟨_, w, .start s w hpc hset, .of_setPc hpend (by simp) (by simp [hpc, Pc.remaining]) rfl⟩
    · exact ⟨_, w, .recheck_set s w hpc hset,
        .of_setPc hpend (by simp) (by simp [hpc, Pc.remaining]) rfl⟩
  case setUnderWrite =>
    exact ⟨_, w, .unlock_set s w hpc, .of_setPc hpend (by simp) (by simp [hpc, Pc.remaining]) rfl⟩
  case computing k =>
    have hk := (hinv.computing hpc).2.1
    rcases Nat.lt_or_ge k (cacheBlocks env cert).length with hlt | hge
    · exact ⟨_, w, .block s w k _ hpc (List.getElem?_eq_getElem hlt),
        .of_setPc hpend (by simp) (by simp [hpc, Pc.remaining]; omega) rfl⟩
    · obtain rfl : k = (cacheBlocks env cert).length := by omega
      exact ⟨_, w, .mark s w hpc, .of_setPc hpend (by simp) (by simp [hpc, Pc.remaining]) rfl⟩
  case marked =>
    exact ⟨_, w, .unlock_marked s w hpc,
      .of_setPc hpend (by simp) (by simp [hpc, Pc.remaining]) rfl⟩

/-- A reader can always move. -/
theorem Inv.advance_reader {r : Tid} (hr : s.lock.readers r = true) :
    ∃ s' u, Step env cert s s' ∧ Advances (cacheBlocks env cert).length s s' u := by
  have hpr : (s.pc r).holdsRead = true := (hinv.readers r) ▸ hr
  have hpend := Pc.pending_of_holdsRead hpr
  cases hpc : s.pc r <;> simp only [hpc, Pc.holdsRead, Bool.false_eq_true] at hpr
  case readLocked =>
    exact ⟨_, r, .read_set s r hpc, .of_setPc hpend (by simp) (by simp [hpc, Pc.remaining]) rfl⟩
  case readSet b =>
    exact ⟨_, r, .unlock_read s r b hpc, .of_setPc hpend (by cases b <;> simp)
      (by cases b <;> simp [hpc, Pc.remaining]) rfl⟩

/-- With the lock free, every thread inside the call can move. -/
theorem Inv.advance_free (hw : s.lock.writer = none) (hr : ∀ u, s.lock.readers u = false)
    {t : Tid} (ht : (s.pc t).pending = true) :
    ∃ s' u, Step env cert s s' ∧ Advances (cacheBlocks env cert).length s s' u := by
  have hnr : (s.pc t).holdsRead = false := (hinv.readers t) ▸ hr t
  have hnw : (s.pc t).holdsWrite = false := hinv.holdsWrite_free hw t
  cases hpc : s.pc t <;> simp only [hpc, Pc.holdsRead, Pc.holdsWrite, Bool.true_eq_false] at hnr hnw
  case idle | returned => simp [hpc, Pc.pending] at ht
  case wantWrite =>
    exact ⟨_, t, .lock_write s t hpc hw hr,
      .of_setPc ht (by simp) (by simp [hpc, Pc.remaining]) rfl⟩
  case returning =>
    exact ⟨_, t, .ret s t hpc, .of_setPc ht (by simp) (by simp [hpc, Pc.remaining]) rfl⟩

/-- **No deadlock**: in a reachable state where some thread is inside the
    call, some thread inside the call can step closer to its return. -/
theorem Inv.advance {t : Tid} (ht : (s.pc t).pending = true) :
    ∃ s' u, Step env cert s s' ∧ Advances (cacheBlocks env cert).length s s' u := by
  cases hw : s.lock.writer with
  | some w => exact hinv.advance_writer hw
  | none =>
    by_cases hr : ∃ r, s.lock.readers r = true
    · obtain ⟨r, hr⟩ := hr
      exact hinv.advance_reader hr
    · exact hinv.advance_free hw (fun u => by simpa using not_exists.mp hr u) ht

end Advance

/-! ## Section 2: Every call in progress completes -/

section Complete

variable [DecidableEq Tid] [Fintype Tid] {env : X509Env} {cert : Cert} {c0 : Cache}

/-- The schedule that completes every call in progress, by induction on the
    sum of the remaining steps. -/
theorem complete_of_sum (h0 : c0.ex_flags.set = false) (m : Nat) :
    ∀ s : SharedState Tid, ∑ v, (s.pc v).remaining (cacheBlocks env cert).length = m →
      Reachable env cert c0 s →
      ∃ s', Relation.ReflTransGen (Step env cert) s s' ∧
        ∀ t, (s.pc t = .idle → s'.pc t = .idle) ∧
          (s.pc t ≠ .idle → s'.pc t = .returned (validity (computedCache env cert c0))) := by
  induction m using Nat.strong_induction_on with
  | _ m ih =>
  intro s hm hs
  have hinv := hs.inv h0
  by_cases hpend : ∃ t, (s.pc t).pending = true
  · obtain ⟨t, ht⟩ := hpend
    obtain ⟨s1, u, hstep, hadv⟩ := hinv.advance ht
    obtain ⟨s', hrun, hs'⟩ := ih _ (hm ▸ hadv.sum_lt) s1 rfl (hs.step hstep)
    refine ⟨s', .head hstep hrun, fun v => ⟨fun hv => (hs' v).1 ?_, fun hv => (hs' v).2 ?_⟩⟩
    · by_cases hvu : v = u
      · have := hadv.pending
        rw [← hvu, hv] at this
        simp [Pc.pending] at this
      · rw [hadv.others v hvu, hv]
    · by_cases hvu : v = u
      · exact hvu ▸ hadv.not_idle
      · rwa [hadv.others v hvu]
  · refine ⟨s, .refl, fun t => ⟨id, fun ht => ?_⟩⟩
    obtain ⟨r, hr⟩ := Pc.eq_returned (by simpa using not_exists.mp hpend t) ht
    have hok := hinv.threads t
    rw [hr] at hok ⊢
    exact congrArg Pc.returned hok

/-- **Every call in progress can complete**, for finitely many threads: from
    every reachable state there is a run after which each thread that was
    inside `x509v3_cache_extensions` has returned the validity of the
    computed cache, and each thread that was outside is still outside. -/
theorem x509v3_cache_extensions_complete (h0 : c0.ex_flags.set = false) {s : SharedState Tid}
    (hs : Reachable env cert c0 s) :
    ∃ s', Relation.ReflTransGen (Step env cert) s s' ∧
      ∀ t, (s.pc t = .idle → s'.pc t = .idle) ∧
        (s.pc t ≠ .idle → s'.pc t = .returned (validity (computedCache env cert c0))) :=
  complete_of_sum h0 _ s rfl hs

end Complete

/-- Thread 0 has taken the read lock on the sample CA certificate; a run
    completes its call. -/
theorem x509v3_cache_extensions_complete_sample :
    Cache.fresh.ex_flags.set = false ∧
      Reachable sampleEnv sampleCaCert Cache.fresh
        (((SharedState.init Cache.fresh : SharedState (Fin 2)).setPc 0 .readLocked).setReader 0
          true) ∧
      ∃ s', Relation.ReflTransGen (Step sampleEnv sampleCaCert)
          (((SharedState.init Cache.fresh : SharedState (Fin 2)).setPc 0 .readLocked).setReader 0
            true) s' ∧
        ∀ t, ((((SharedState.init Cache.fresh : SharedState (Fin 2)).setPc 0 .readLocked).setReader
            0 true).pc t = .idle → s'.pc t = .idle) ∧
          ((((SharedState.init Cache.fresh : SharedState (Fin 2)).setPc 0 .readLocked).setReader
            0 true).pc t ≠ .idle →
            s'.pc t = .returned (validity (computedCache sampleEnv sampleCaCert Cache.fresh))) :=
  have hs : Reachable sampleEnv sampleCaCert Cache.fresh
      (((SharedState.init Cache.fresh : SharedState (Fin 2)).setPc 0 .readLocked).setReader 0
        true) := .step .init (.lock_read _ 0 rfl rfl)
  ⟨rfl, hs, x509v3_cache_extensions_complete rfl hs⟩

end X509v3
