import Mathlib.Data.List.Basic

/-! atomic.h: `sys_atomic_t`, a 32-bit counter changed by fetch-and-add and fetch-and-subtract.
The compiler picks one of three implementations: C11 `stdatomic.h`, the GCC `__sync` builtins,
or a fallback that guards a plain `uint32_t` with a mutex (threading.h is not under src/; a
`sys_mutex_lock` waits while another thread holds the lock). The first two do each operation as
one atomic step, which `AtomicOp.apply` is; the fallback is modelled step by step, as the threads
interleave, and shown to behave as one counter. -/

namespace DispatchRouter.Atomic

/-- An operation on a `sys_atomic_t` after its `sys_atomic_init`: `sys_atomic_add`,
`sys_atomic_sub` (and so `sys_atomic_inc` and `sys_atomic_dec`), or `sys_atomic_get`. -/
inductive AtomicOp where
  | add (value : UInt32)
  | sub (value : UInt32)
  | get
  deriving DecidableEq, Repr

/-- `sys_atomic_inc`. -/
def sysAtomicInc : AtomicOp := .add 1

/-- `sys_atomic_dec`. -/
def sysAtomicDec : AtomicOp := .sub 1

/-- An operation on a counter holding `value`: the value after, and the value returned
(`atomic_fetch_add`, `__sync_fetch_and_add` and the fallback return the value before). -/
def AtomicOp.apply : AtomicOp → UInt32 → UInt32 × UInt32
  | .add delta, value => (value + delta, value)
  | .sub delta, value => (value - delta, value)
  | .get, value => (value, value)

/-- The values a counter starting at `value` returns to the operations in turn. -/
def counterRun (value : UInt32) : List AtomicOp → List UInt32
  | [] => []
  | op :: ops => (op.apply value).2 :: counterRun (op.apply value).1 ops

/-- The value a counter starting at `value` holds after the operations. -/
def counterValue (value : UInt32) (ops : List AtomicOp) : UInt32 :=
  ops.foldl (fun value op => (op.apply value).1) value

@[simp] theorem AtomicOp.apply_snd (op : AtomicOp) (value : UInt32) : (op.apply value).2 = value := by
  cases op <;> rfl

theorem counterValue_append_singleton (value : UInt32) (ops : List AtomicOp) (op : AtomicOp) :
    counterValue value (ops ++ [op]) = (op.apply (counterValue value ops)).1 := by
  simp [counterValue]

theorem counterRun_append_singleton (op : AtomicOp) :
    ∀ (value : UInt32) (ops : List AtomicOp),
      counterRun value (ops ++ [op]) = counterRun value ops ++ [counterValue value ops]
  | _, [] => by simp [counterRun, counterValue]
  | value, op' :: ops => by
    rw [List.cons_append, counterRun, counterRun_append_singleton op _ ops]
    rfl

/-! ## The mutex fallback, thread by thread -/

/-- Where a thread is in an operation of the fallback: before `sys_mutex_lock`, holding the lock,
with `ref->value` read into `prev`, or with the new value written and the unlock to come. -/
inductive MutexPc where
  | idle
  | locked
  | read (prev : UInt32)
  | written (prev : UInt32)
  deriving DecidableEq, Repr

/-- A thread: its operations not yet finished, the current one first, and where it is in it. -/
structure MutexThread where
  ops : List AtomicOp
  pc : MutexPc

/-- A fallback `sys_atomic_t` shared by threads: the thread holding `ref->lock`, `ref->value`, the
threads, and the operations finished so far in the order they finished, each with its thread and
the value it returned. -/
structure MutexAtomic where
  holder : Option Nat
  value : UInt32
  threads : Nat → MutexThread
  finished : List (Nat × AtomicOp × UInt32)

/-- `sys_atomic_init (ref, value)`, with each thread about to run its operations. -/
def mutexInit (value : UInt32) (programs : Nat → List AtomicOp) : MutexAtomic :=
  ⟨none, value, fun t => ⟨programs t, .idle⟩, []⟩

/-- `sys_mutex_unlock` and the return of `prev`: thread `t` has finished `op`. -/
def release (a : MutexAtomic) (t : Nat) (op : AtomicOp) (rest : List AtomicOp) (prev : UInt32) :
    MutexAtomic :=
  { a with
    holder := none
    threads := Function.update a.threads t ⟨rest, .idle⟩
    finished := a.finished ++ [(t, op, prev)] }

/-- One step of thread `t`; `none` when it cannot move: it has nothing left to do, or waits for a
lock another thread holds. `sys_atomic_get` returns the value it read without writing. -/
def mutexStep (a : MutexAtomic) (t : Nat) : Option MutexAtomic :=
  let thread := a.threads t
  match thread.ops, thread.pc with
  | [], _ => none
  | _ :: _, .idle =>
    if a.holder.isNone then
      some { a with
        holder := some t
        threads := Function.update a.threads t { thread with pc := .locked } }
    else none
  | _ :: _, .locked =>
    some { a with threads := Function.update a.threads t { thread with pc := .read a.value } }
  | .get :: rest, .read prev => some (release a t .get rest prev)
  | op :: _, .read prev =>
    some { a with
      value := (op.apply a.value).1
      threads := Function.update a.threads t { thread with pc := .written prev } }
  | op :: rest, .written prev => some (release a t op rest prev)

/-- The threads stepped in the order of `schedule`; a thread that cannot move leaves all as it
is. -/
def mutexRun (a : MutexAtomic) : List Nat → MutexAtomic
  | [] => a
  | t :: schedule => mutexRun ((mutexStep a t).getD a) schedule

/-! ## Linearizability of the fallback -/

/-- Where the lock holder's operation stands against `committed`, the value the finished
operations leave: it has read `committed`, and has written what its operation makes of it. -/
def HolderPhase (committed value : UInt32) (thread : MutexThread) : Prop :=
  match thread.pc, thread.ops with
  | .written prev, op :: _ => prev = committed ∧ value = (op.apply committed).1
  | .read prev, _ => prev = committed ∧ value = committed
  | _, _ => value = committed

/-- The operations finished so far. -/
def MutexAtomic.finishedOps (a : MutexAtomic) : List AtomicOp := a.finished.map (·.2.1)

/-- What every interleaving keeps, from `sys_atomic_init (ref, value)` with threads running
`programs`: the finished operations returned what a counter returns to them in turn, each thread
has finished the start of its program, only the holder is inside the lock, and `ref->value` is
what the finished operations leave, or the holder's operation has changed it. -/
structure Linearized (value : UInt32) (programs : Nat → List AtomicOp) (a : MutexAtomic) : Prop where
  returns : a.finished.map (·.2.2) = counterRun value a.finishedOps
  program : ∀ t, (a.finished.filter (·.1 == t)).map (·.2.1) ++ (a.threads t).ops = programs t
  exclusive : ∀ t, (a.threads t).pc ≠ .idle → a.holder = some t
  free : a.holder = none → a.value = counterValue value a.finishedOps
  held : ∀ h, a.holder = some h → HolderPhase (counterValue value a.finishedOps) a.value (a.threads h)

section Steps
variable {value : UInt32} {programs : Nat → List AtomicOp} {a : MutexAtomic} {t : Nat}

theorem linearized_mutexInit (value : UInt32) (programs : Nat → List AtomicOp) :
    Linearized value programs (mutexInit value programs) :=
  ⟨rfl, fun _ => rfl, fun _ idle => absurd rfl idle, fun _ => rfl, fun _ held => nomatch held⟩

@[simp] theorem ops_update_pc (threads : Nat → MutexThread) (t t' : Nat) (pc : MutexPc) :
    (Function.update threads t { threads t with pc } t').ops = (threads t').ops := by
  by_cases same : t' = t
  · subst same; rw [Function.update_same]
  · rw [Function.update_noteq same]

theorem Linearized.acquire (inv : Linearized value programs a) (free : a.holder = none) :
    Linearized value programs { a with
      holder := some t
      threads := Function.update a.threads t { a.threads t with pc := .locked } } where
  returns := inv.returns
  program t' := by simpa only [ops_update_pc] using inv.program t'
  exclusive t' := by
    by_cases same : t' = t
    · exact fun _ => congrArg some same.symm
    · simp only [Function.update_noteq same]
      exact fun busy => nomatch free.symm.trans (inv.exclusive t' busy)
  free := nofun
  held h holder := by
    cases holder
    simp only [Function.update_same]
    exact inv.free free

theorem Linearized.advance (inv : Linearized value programs a) (holds : a.holder = some t)
    {pc : MutexPc} {newValue : UInt32}
    (phase : HolderPhase (counterValue value a.finishedOps) newValue { a.threads t with pc }) :
    Linearized value programs { a with
      value := newValue
      threads := Function.update a.threads t { a.threads t with pc } } where
  returns := inv.returns
  program t' := by simpa only [ops_update_pc] using inv.program t'
  exclusive t' := by
    by_cases same : t' = t
    · exact fun _ => same ▸ holds
    · simp only [Function.update_noteq same]
      exact inv.exclusive t'
  free := by simp only [holds]; exact nofun
  held h holder := by
    simp only [holds, Option.some.injEq] at holder
    subst holder
    simpa only [Function.update_same] using phase

theorem Linearized.unlock (inv : Linearized value programs a) (holds : a.holder = some t)
    {op : AtomicOp} {rest : List AtomicOp} {prev : UInt32} (ops : (a.threads t).ops = op :: rest)
    (read : prev = counterValue value a.finishedOps)
    (written : a.value = (op.apply (counterValue value a.finishedOps)).1) :
    Linearized value programs (release a t op rest prev) where
  returns := by
    simp only [release, MutexAtomic.finishedOps, List.map_append, List.map_cons, List.map_nil,
      counterRun_append_singleton, inv.returns, read]
  program t' := by
    rw [← inv.program t']
    by_cases same : t' = t
    · subst same
      simp [release, ops]
    · have other : (t == t') = false := by simpa using Ne.symm same
      simp [release, other, Function.update_noteq same]
  exclusive t' := by
    by_cases same : t' = t
    · subst same; simp [release]
    · simp only [release, Function.update_noteq same]
      exact fun busy => absurd (Option.some.inj ((inv.exclusive t' busy).symm.trans holds)) same
  free _ := by
    simp only [release, MutexAtomic.finishedOps, List.map_append, List.map_cons, List.map_nil,
      counterValue_append_singleton]
    exact written
  held _ holder := nomatch holder

/-- One step of a thread keeps the invariant. -/
theorem Linearized.step (inv : Linearized value programs a) {a' : MutexAtomic}
    (step : mutexStep a t = some a') : Linearized value programs a' := by
  dsimp only [mutexStep] at step
  split at step
  next => cases step
  next ops idle =>
    split at step
    next free =>
      cases step
      exact inv.acquire (Option.isNone_iff_eq_none.mp free)
    next => cases step
  next ops locked =>
    cases step
    have holds := inv.exclusive t (by rw [locked]; exact nofun)
    have phase : a.value = counterValue value a.finishedOps := by
      simpa [HolderPhase, locked] using inv.held t holds
    exact inv.advance holds (by simp [HolderPhase, phase])
  next rest prev ops read =>
    cases step
    have holds := inv.exclusive t (by rw [read]; exact nofun)
    have phase := inv.held t holds
    simp only [HolderPhase, read] at phase
    exact inv.unlock holds ops phase.1 phase.2
  next op _ prev notGet ops read =>
    cases step
    have holds := inv.exclusive t (by rw [read]; exact nofun)
    have phase := inv.held t holds
    simp only [HolderPhase, read] at phase
    exact inv.advance holds (by simp [HolderPhase, ops, phase])
  next op rest prev ops written =>
    cases step
    have holds := inv.exclusive t (by rw [written]; exact nofun)
    have phase := inv.held t holds
    simp only [HolderPhase, written, ops] at phase
    exact inv.unlock holds ops phase.1 phase.2

theorem Linearized.run : ∀ (schedule : List Nat) {a : MutexAtomic}, Linearized value programs a →
    Linearized value programs (mutexRun a schedule)
  | [], _, inv => inv
  | t :: schedule, a, inv => by
    rw [mutexRun]
    cases stepped : mutexStep a t with
    | none => exact inv.run schedule
    | some a' => exact (inv.step stepped).run schedule

end Steps

/-- Over every interleaving of the threads' steps the fallback `sys_atomic_t` is linearizable:
the operations finished so far return exactly what one counter starting at the initial value
returns to them in the order they finished, each thread has finished the start of its own
operations, and no two threads are ever inside the lock at once. -/
theorem mutexRun_linearizable (value : UInt32) (programs : Nat → List AtomicOp) (schedule : List Nat) :
    let a := mutexRun (mutexInit value programs) schedule
    a.finished.map (·.2.2) = counterRun value (a.finished.map (·.2.1)) ∧
      (∀ t, (a.finished.filter (·.1 == t)).map (·.2.1) <+: programs t) ∧
      (∀ t t', (a.threads t).pc ≠ .idle → (a.threads t').pc ≠ .idle → t = t') := by
  intro a
  have inv : Linearized value programs a := (linearized_mutexInit value programs).run schedule
  refine ⟨inv.returns, fun t => ⟨_, inv.program t⟩, fun t t' busy busy' => ?_⟩
  exact Option.some.inj ((inv.exclusive t busy).symm.trans (inv.exclusive t' busy'))

/-- Two threads incrementing from 0, the second made to wait on the lock twice: the second
increment returns 1 and the counter ends at 2. -/
example : (mutexRun (mutexInit 0 fun t => if t < 2 then [sysAtomicInc] else []) [0, 1, 0, 1, 0, 0, 1, 1, 1, 1]).finished =
    [(0, .add 1, 0), (1, .add 1, 1)] := by decide

end DispatchRouter.Atomic
