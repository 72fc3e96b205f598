import Mathlib.Data.List.Basic
import Mathlib.Algebra.Group.Nat.Basic

/-! The life of the `qd_policy_t` of policy.c. `qd_policy` allocates it with its `tree_lock` mutex
and its hostname tree, `qd_entity_configure_policy` reads the router's `policy` entity into it, and
`qd_policy_free` releases it. The heap is the set of live blocks, and `free` of a block that is not
live is a fault (`none`), so a run that does not fault frees no block twice. The entity readers of
entity.c, `sys_mutex` of threading.h and `qd_parse_tree_new` of parse_tree.c are not under src/:
the readers are the fields of a `QdEntity`, and each allocator takes one block, which only its own
`sys_mutex_free` or `qd_parse_tree_free` gives back. Logging is left out. -/

namespace DispatchRouter.PolicyConfig

/-! ## The heap -/

/-- The blocks `malloc` has handed out and not taken back, all below `next`, the block the next
allocation gets. -/
structure Heap where
  live : Nat → Bool
  next : Nat
  below : ∀ p, live p = true → p < next

theorem Heap.next_dead (heap : Heap) : heap.live heap.next = false :=
  Bool.eq_false_iff.mpr fun live => Nat.lt_irrefl _ (heap.below _ live)

theorem Heap.below_malloc (heap : Heap) (p : Nat) (live : (p == heap.next || heap.live p) = true) :
    p < heap.next + 1 := by
  rcases Bool.or_eq_true_iff.mp live with same | old
  · exact Nat.lt_succ_of_le (Nat.le_of_eq (beq_iff_eq.mp same))
  · exact Nat.lt_succ_of_lt (heap.below p old)

/-- `malloc`: the block `next`, which is not live. -/
def Heap.malloc (heap : Heap) : Nat × Heap :=
  (heap.next, ⟨fun p => p == heap.next || heap.live p, heap.next + 1, heap.below_malloc⟩)

/-- `free`: `none` when the block is not live. -/
def Heap.free (heap : Heap) (p : Nat) : Option Heap :=
  if heap.live p then
    some ⟨fun q => q != p && heap.live q, heap.next, fun q live =>
      heap.below q (Bool.and_eq_true_iff.mp live).2⟩
  else none

@[simp] theorem Heap.malloc_fst (heap : Heap) : heap.malloc.1 = heap.next := rfl

@[simp] theorem Heap.live_malloc (heap : Heap) (p : Nat) :
    heap.malloc.2.live p = (p == heap.next || heap.live p) := rfl

@[simp] theorem Heap.next_malloc (heap : Heap) : heap.malloc.2.next = heap.next + 1 := rfl

theorem Heap.free_live {heap : Heap} {p : Nat} (live : heap.live p = true) :
    ∃ heap', heap.free p = some heap' ∧ ∀ q, heap'.live q = (q != p && heap.live q) :=
  ⟨_, if_pos live, fun _ => rfl⟩

theorem Heap.free_dead {heap : Heap} {p : Nat} (dead : heap.live p = false) : heap.free p = none :=
  if_neg (by simp [dead])

/-! ## The policy -/

/-- The `int` that a `long` is stored as in an `int` field: gcc keeps its low 32 bits, read in two's
complement. -/
def cInt (value : Int) : Int := value.bmod (2 ^ 32)

/-- The fields of `qd_policy_t` its allocation, configuration and release touch, with the block it
lives in; `maxConnectionLimit` is an `int`, and `policyDir` is NULL or the block holding the
string. -/
structure QdPolicyT where
  block : Nat
  treeLock : Nat
  hostnameTree : Nat
  maxConnectionLimit : Int
  policyDir : Option (Nat × List Char)
  enableVhostPolicy : Bool
  enableVhostNamePatterns : Bool

/-- `qd_policy`: the policy block, then `sys_mutex ()` and `qd_parse_tree_new`; `ZERO` leaves
`policyDir` NULL and both switches off. -/
def qdPolicy (heap : Heap) : QdPolicyT × Heap :=
  let (block, heap) := heap.malloc
  let (treeLock, heap) := heap.malloc
  let (hostnameTree, heap) := heap.malloc
  (⟨block, treeLock, hostnameTree, 65535, none, false, false⟩, heap)

/-- `if (policy->policyDir) free (policy->policyDir)`. -/
def freePolicyDir (heap : Heap) (policy : QdPolicyT) : Option Heap :=
  match policy.policyDir with
  | some (dir, _) => heap.free dir
  | none => some heap

/-- `qd_policy_free`: `policyDir`, `qd_parse_tree_free` of the hostname tree, then the policy;
nothing frees `tree_lock`. -/
def qdPolicyFree (heap : Heap) (policy : QdPolicyT) : Option Heap := do
  let heap ← freePolicyDir heap policy
  let heap ← heap.free policy.hostnameTree
  heap.free policy.block

/-! ## Configuration -/

/-- A `qd_error_t` as `qd_entity_configure_policy` returns it: the `QD_ERROR_CONFIG` it raises,
with its text, or the code a reader left. -/
inductive QdError where
  | config (message : List Char)
  | entity (code : Nat)
  deriving DecidableEq, Repr

/-- The readers `qd_entity_opt_long`, `qd_entity_opt_string` and `qd_entity_opt_bool` of one
entity: for an attribute and a default, the value returned (a `long` for the first) and the code
`qd_error_code ()` then reports (`none` for `QD_ERROR_NONE`). A string comes back in a block of its
own. -/
structure QdEntity where
  optLong : List Char → Int → Int × Option Nat
  optString : List Char → Option (List Char) → Option (List Char) × Option Nat
  optBool : List Char → Bool → Bool × Option Nat

/-- The block `qd_entity_opt_string` returns the string in, or NULL. -/
def mallocString (heap : Heap) : Option (List Char) → Option (Nat × List Char) × Heap
  | none => (none, heap)
  | some s => (some (heap.next, s), heap.malloc.2)

/-- The `error:` block: `policyDir` is freed, then the policy with `qd_policy_free`, and the
reader's code is returned. -/
def configureError (heap : Heap) (policy : QdPolicyT) (code : Nat) :
    Option (Heap × QdPolicyT × Option QdError) := do
  let heap ← freePolicyDir heap policy
  let heap ← qdPolicyFree heap policy
  pure (heap, policy, some (.entity code))

/-- `CHECK ()`: the rest of the function while `qd_error_code ()` is `QD_ERROR_NONE`, else
`goto error`. -/
def check (heap : Heap) (policy : QdPolicyT) (error : Option Nat)
    (rest : Option (Heap × QdPolicyT × Option QdError)) : Option (Heap × QdPolicyT × Option QdError) :=
  match error with
  | some code => configureError heap policy code
  | none => rest

/-- `qd_entity_configure_policy`: the heap and policy after, and the error returned (`none` for
`QD_ERROR_NONE`); `none` when a `free` meets a block that is not live. The `long` read for
`maxConnections` is stored in the `int` field before it is tested. -/
def qdEntityConfigurePolicy (heap : Heap) (policy : QdPolicyT) (entity : QdEntity) :
    Option (Heap × QdPolicyT × Option QdError) :=
  let (limit, error) := entity.optLong "maxConnections".toList 65535
  let policy := { policy with maxConnectionLimit := cInt limit }
  check heap policy error <|
  if policy.maxConnectionLimit < 0 then
    some (heap, policy, some (.config "maxConnections must be >= 0".toList)) else
  let (dir, error) := entity.optString "policyDir".toList none
  let (dir, heap) := mallocString heap dir
  let policy := { policy with policyDir := dir }
  check heap policy error <|
  let (enable, error) := entity.optBool "enableVhostPolicy".toList false
  let policy := { policy with enableVhostPolicy := enable }
  check heap policy error <|
  let (enable, error) := entity.optBool "enableVhostNamePatterns".toList false
  let policy := { policy with enableVhostNamePatterns := enable }
  check heap policy error <| some (heap, policy, none)

/-- An entity with none of the four attributes: every reader returns its default. -/
def defaultEntity : QdEntity :=
  ⟨fun _ default => (default, none), fun _ default => (default, none), fun _ default => (default, none)⟩

/-- The defaults pass the configuration's own check: an entity without the attributes is accepted,
with the limit `qd_policy` starts from, no `policyDir` and both switches off, and nothing
allocated. -/
theorem qdEntityConfigurePolicy_defaultEntity (heap : Heap) (policy : QdPolicyT) :
    qdEntityConfigurePolicy heap policy defaultEntity =
      some (heap, { policy with
        maxConnectionLimit := 65535, policyDir := none, enableVhostPolicy := false,
        enableVhostNamePatterns := false }, none) := rfl

/-- A `maxConnections` that is negative as an `int` is refused with the error that names it, and
nothing is allocated or freed; but the refused value stays in the policy, the only field the
refusal changes. -/
theorem qdEntityConfigurePolicy_refused (heap : Heap) (policy : QdPolicyT) {entity : QdEntity}
    {limit : Int} (read : entity.optLong "maxConnections".toList 65535 = (limit, none))
    (negative : cInt limit < 0) :
    qdEntityConfigurePolicy heap policy entity =
      some (heap, { policy with maxConnectionLimit := cInt limit },
        some (.config "maxConnections must be >= 0".toList)) := by
  simp only [qdEntityConfigurePolicy, read]
  simp [check, negative]

/-- A `maxConnections` of 2^31 is stored as `-2^31` and refused; one of `5 - 2^32` is stored as 5. -/
example : cInt (2 ^ 31) = -2 ^ 31 ∧ cInt (5 - 2 ^ 32) = 5 := by decide

/-! ## Ownership -/

/-- The blocks a policy owns: itself, its hostname tree, and its `policyDir` string when set. -/
def policyBlocks (policy : QdPolicyT) : List Nat :=
  policy.block :: policy.hostnameTree :: (policy.policyDir.map (·.1)).toList

/-- The blocks a policy owns are live and apart. -/
structure Owned (heap : Heap) (policy : QdPolicyT) : Prop where
  live : ∀ p ∈ policyBlocks policy, heap.live p = true
  apart : (policyBlocks policy).Nodup

@[simp] theorem qdPolicy_policyDir (heap : Heap) : (qdPolicy heap).1.policyDir = none := rfl

theorem qdPolicy_owned (heap : Heap) : Owned (qdPolicy heap).2 (qdPolicy heap).1 :=
  ⟨by simp [qdPolicy, policyBlocks], by simp [qdPolicy, policyBlocks]; omega⟩

section Release
variable {heap : Heap} {policy : QdPolicyT}

theorem qdPolicyFree_owned (owned : Owned heap policy) :
    ∃ heap', qdPolicyFree heap policy = some heap' ∧
      ∀ p, heap'.live p = true ↔ heap.live p = true ∧ p ∉ policyBlocks policy := by
  have live := owned.live
  have apart := owned.apart
  unfold policyBlocks at live apart ⊢
  obtain ⟨heap₁, freedDir, dirGone⟩ : ∃ heap₁, freePolicyDir heap policy = some heap₁ ∧
      ∀ q, heap₁.live q = true ↔ heap.live q = true ∧ q ∉ (policy.policyDir.map (·.1)).toList := by
    unfold freePolicyDir
    cases holds : policy.policyDir with
    | none => exact ⟨heap, rfl, by simp⟩
    | some dir =>
      obtain ⟨heap₁, freed, gone⟩ := Heap.free_live (live dir.1 (by simp [holds]))
      exact ⟨heap₁, freed, fun q => by simp [gone, and_comm]⟩
  simp only [List.nodup_cons, List.mem_cons, not_or] at apart
  have treeLive : heap₁.live policy.hostnameTree = true := by
    rw [dirGone]; exact ⟨live _ (by simp), apart.2.1⟩
  obtain ⟨heap₂, freedTree, treeGone⟩ := Heap.free_live treeLive
  have blockLive : heap₂.live policy.block = true := by
    simp [treeGone, dirGone, apart.1.1, apart.1.2, live]
  obtain ⟨heap₃, freedBlock, blockGone⟩ := Heap.free_live blockLive
  refine ⟨heap₃, by simp [qdPolicyFree, freedDir, freedTree, freedBlock], fun q => ?_⟩
  simp only [blockGone, treeGone, Bool.and_eq_true, bne_iff_ne, ne_eq, dirGone, List.mem_cons,
    not_or]
  exact ⟨fun ⟨other, notTree, live, notDir⟩ => ⟨live, other, notTree, notDir⟩,
    fun ⟨live, other, notTree, notDir⟩ => ⟨other, notTree, live, notDir⟩⟩

/-- The `error:` block of a policy holding a `policyDir` frees it twice. -/
theorem configureError_of_dir (owned : Owned heap policy) {dir : Nat × List Char}
    (holds : policy.policyDir = some dir) (code : Nat) : configureError heap policy code = none := by
  obtain ⟨heap₁, freed, gone⟩ := Heap.free_live (owned.live dir.1 (by simp [policyBlocks, holds]))
  have again : heap₁.free dir.1 = none := Heap.free_dead (by simp [gone])
  simp [configureError, qdPolicyFree, freePolicyDir, holds, freed, again]

theorem configureError_of_no_dir (owned : Owned heap policy) (noDir : policy.policyDir = none)
    (code : Nat) :
    ∃ heap', configureError heap policy code = some (heap', policy, some (.entity code)) ∧
      ∀ p, heap'.live p = true ↔ heap.live p = true ∧ p ∉ policyBlocks policy := by
  obtain ⟨heap', freed, gone⟩ := qdPolicyFree_owned owned
  exact ⟨heap', by simp [configureError, freePolicyDir, noDir, freed], gone⟩

theorem owned_mallocString (owned : Owned heap policy) (dir : Option (List Char)) :
    Owned (mallocString heap dir).2 { policy with policyDir := (mallocString heap dir).1 } := by
  have live := owned.live
  have apart := owned.apart
  simp only [policyBlocks, List.nodup_cons, List.mem_cons, not_or] at live apart
  cases dir with
  | none =>
    refine ⟨fun p mem => live p ?_, by simp [policyBlocks, mallocString, apart.1.1]⟩
    simp only [policyBlocks, mallocString, Option.map_none', Option.toList_none, List.mem_cons,
      List.not_mem_nil, or_false] at mem
    exact mem.imp_right Or.inl
  | some s =>
    have fresh : ∀ p, heap.live p = true → p ≠ heap.next := fun p live same =>
      Bool.false_ne_true (heap.next_dead ▸ same ▸ live)
    refine ⟨fun p mem => ?_, ?_⟩
    · simp only [policyBlocks, mallocString, Option.map_some', Option.toList_some, List.mem_cons,
        List.mem_singleton, List.not_mem_nil, or_false] at mem
      simp only [mallocString, Heap.live_malloc, Bool.or_eq_true, beq_iff_eq]
      rcases mem with rfl | rfl | rfl
      · exact .inr (live _ (.inl rfl))
      · exact .inr (live _ (.inr (.inl rfl)))
      · exact .inl rfl
    simp only [policyBlocks, mallocString, Option.map_some', Option.toList_some, List.nodup_cons,
      List.mem_cons, List.mem_singleton, not_or, List.not_mem_nil, not_false_eq_true,
      List.nodup_nil, and_true]
    exact ⟨⟨apart.1.1, fresh _ (live _ (Or.inl rfl))⟩, fresh _ (live _ (Or.inr (Or.inl rfl)))⟩

theorem Owned.flags (owned : Owned heap policy) (vhost patterns : Bool) :
    Owned heap { policy with enableVhostPolicy := vhost } ∧
      Owned heap { policy with enableVhostPolicy := vhost, enableVhostNamePatterns := patterns } :=
  ⟨⟨owned.live, owned.apart⟩, ⟨owned.live, owned.apart⟩⟩

theorem check_eq_none_iff (owned : Owned heap policy) (error : Option Nat)
    (rest : Option (Heap × QdPolicyT × Option QdError)) :
    check heap policy error rest = none ↔
      error.isSome ∧ policy.policyDir.isSome ∨ error = none ∧ rest = none := by
  cases error with
  | none => simp [check]
  | some code =>
    cases holds : policy.policyDir with
    | none =>
      obtain ⟨_, released, _⟩ := configureError_of_no_dir owned holds code
      simp [check, released]
    | some dir => simp [check, configureError_of_dir owned holds]

end Release

/-! ## Faults and leaks -/

/-- The configuration reaches `error:` holding a `policyDir`: the first read fails on a policy that
already has one, or the limit is not negative as an `int`, `policyDir` is read as a string, and it
or a later read fails. -/
def FailsHoldingDir (policy : QdPolicyT) (entity : QdEntity) : Prop :=
  let limit := entity.optLong "maxConnections".toList 65535
  let dir := entity.optString "policyDir".toList none
  limit.2.isSome ∧ policy.policyDir.isSome ∨
    limit.2 = none ∧ 0 ≤ cInt limit.1 ∧ dir.1.isSome ∧
      (dir.2.isSome ∨ (entity.optBool "enableVhostPolicy".toList false).2.isSome ∨
        (entity.optBool "enableVhostNamePatterns".toList false).2.isSome)

instance (policy : QdPolicyT) (entity : QdEntity) : Decidable (FailsHoldingDir policy entity) :=
  inferInstanceAs (Decidable (_ ∨ _))

/-- `qd_entity_configure_policy` frees a block twice exactly when it reaches `error:` holding a
`policyDir`: the `error:` block frees the string, and `qd_policy_free` frees it again. Every other
run, accepted or refused, frees nothing twice. -/
theorem qdEntityConfigurePolicy_eq_none_iff {heap : Heap} {policy : QdPolicyT}
    (owned : Owned heap policy) (entity : QdEntity) :
    qdEntityConfigurePolicy heap policy entity = none ↔ FailsHoldingDir policy entity := by
  rcases r₁ : entity.optLong "maxConnections".toList 65535 with ⟨limit, e₁⟩
  rcases r₂ : entity.optString "policyDir".toList none with ⟨dir, e₂⟩
  rcases r₃ : entity.optBool "enableVhostPolicy".toList false with ⟨b₃, e₃⟩
  rcases r₄ : entity.optBool "enableVhostNamePatterns".toList false with ⟨b₄, e₄⟩
  have owned₁ : Owned heap { policy with maxConnectionLimit := cInt limit } := ⟨owned.live, owned.apart⟩
  have owned₂ := owned_mallocString owned₁ dir
  simp only [qdEntityConfigurePolicy, FailsHoldingDir, r₁, r₂, r₃, r₄]
  rw [check_eq_none_iff owned₁]
  by_cases neg : cInt limit < 0
  · have : ¬0 ≤ cInt limit := Int.not_le.mpr neg
    simp [neg, this]
  · obtain ⟨owned₃, owned₄⟩ := owned₂.flags b₃ b₄
    rw [if_neg neg, check_eq_none_iff owned₂, check_eq_none_iff owned₃, check_eq_none_iff owned₄]
    have nonneg : 0 ≤ cInt limit := Int.not_lt.mp neg
    have read : (mallocString heap dir).1.isSome = dir.isSome := by cases dir <;> rfl
    simp only [read, Option.some_ne_none, and_false, or_false, nonneg, true_and]
    cases e₁ <;> cases e₂ <;> cases e₃ <;> cases e₄ <;> simp

/-- The heap before any allocation. -/
def emptyHeap : Heap := ⟨fun _ => false, 0, fun _ live => absurd live Bool.false_ne_true⟩

/-- A `policy` entity with a `policyDir` whose `enableVhostPolicy` cannot be read as a boolean. -/
def badSwitchEntity : QdEntity where
  optLong _ default := (default, none)
  optString _ _ := (some "/etc/qpid-dispatch/policies".toList, none)
  optBool name default := (default, if name = "enableVhostPolicy".toList then some 1 else none)

theorem badSwitchEntity_faults :
    Owned (qdPolicy emptyHeap).2 (qdPolicy emptyHeap).1 ∧
      (qdEntityConfigurePolicy (qdPolicy emptyHeap).2 (qdPolicy emptyHeap).1 badSwitchEntity = none ↔
        FailsHoldingDir (qdPolicy emptyHeap).1 badSwitchEntity) :=
  ⟨qdPolicy_owned emptyHeap,
    qdEntityConfigurePolicy_eq_none_iff (qdPolicy_owned emptyHeap) badSwitchEntity⟩

/-- The fresh policy configured from `badSwitchEntity` frees its `policyDir` twice. -/
example : (qdEntityConfigurePolicy (qdPolicy emptyHeap).2 (qdPolicy emptyHeap).1
    badSwitchEntity).isNone := by decide

/-- `qd_policy_free` of a policy that is still allocated; one the `error:` block has released is
left alone. -/
def releaseIfLive (heap : Heap) (policy : QdPolicyT) : Option Heap :=
  if heap.live policy.block then qdPolicyFree heap policy else some heap

/-- A policy's whole life: `qd_policy`, one `qd_entity_configure_policy`, and `qd_policy_free`
unless the configuration has released it already. -/
def policyLifecycle (heap : Heap) (entity : QdEntity) : Option Heap :=
  let (policy, heap) := qdPolicy heap
  (qdEntityConfigurePolicy heap policy entity).bind fun (heap, policy, _) => releaseIfLive heap policy

section Lifecycle
variable {heap : Heap} {policy : QdPolicyT}

/-- What is left once a configuration's outcome is released: the heap without the policy's
blocks. -/
def Releases (heap : Heap) (policy : QdPolicyT) (outcome : Option (Heap × QdPolicyT × Option QdError)) :
    Prop :=
  ∃ heap', outcome.bind (fun (heap, policy, _) => releaseIfLive heap policy) = some heap' ∧
    ∀ p, heap'.live p = true ↔ heap.live p = true ∧ p ∉ policyBlocks policy

theorem releases_kept (owned : Owned heap policy) (error : Option QdError) :
    Releases heap policy (some (heap, policy, error)) := by
  obtain ⟨heap', freed, gone⟩ := qdPolicyFree_owned owned
  exact ⟨heap', by simp [releaseIfLive, owned.live _ (List.mem_cons_self _ _), freed], gone⟩

theorem releases_check (owned : Owned heap policy) (noDir : policy.policyDir = none)
    (error : Option Nat) {rest : Option (Heap × QdPolicyT × Option QdError)}
    (passed : error = none → Releases heap policy rest) : Releases heap policy (check heap policy error rest) := by
  cases error with
  | none => exact passed rfl
  | some code =>
    obtain ⟨heap', released, gone⟩ := configureError_of_no_dir owned noDir code
    have dead : heap'.live policy.block = false :=
      Bool.eq_false_iff.mpr fun live => ((gone _).mp live).2 (List.mem_cons_self _ _)
    exact ⟨heap', by simp [check, released, releaseIfLive, dead], gone⟩

theorem releases_qdEntityConfigurePolicy (owned : Owned heap policy) (noDir : policy.policyDir = none)
    {entity : QdEntity} (safe : ¬FailsHoldingDir policy entity) :
    Releases heap policy (qdEntityConfigurePolicy heap policy entity) := by
  obtain ⟨block, treeLock, hostnameTree, limit₀, dir₀, vhost₀, patterns₀⟩ := policy
  subst noDir
  rcases r₁ : entity.optLong "maxConnections".toList 65535 with ⟨limit, e₁⟩
  rcases r₂ : entity.optString "policyDir".toList none with ⟨dir, e₂⟩
  rcases r₃ : entity.optBool "enableVhostPolicy".toList false with ⟨b₃, e₃⟩
  rcases r₄ : entity.optBool "enableVhostNamePatterns".toList false with ⟨b₄, e₄⟩
  have owned₁ : Owned heap ⟨block, treeLock, hostnameTree, cInt limit, none, vhost₀, patterns₀⟩ :=
    ⟨owned.live, owned.apart⟩
  have owned₂ := owned_mallocString owned₁ dir
  obtain ⟨owned₃, owned₄⟩ := owned₂.flags b₃ b₄
  simp only [FailsHoldingDir, r₁, r₂, r₃, r₄] at safe
  simp only [qdEntityConfigurePolicy, r₁, r₂, r₃, r₄]
  refine releases_check owned₁ rfl e₁ fun passed => ?_
  by_cases neg : cInt limit < 0
  · rw [if_pos neg]; exact releases_kept owned₁ _
  rw [if_neg neg]
  have nonneg : 0 ≤ cInt limit := Int.not_lt.mp neg
  cases dir with
  | none =>
    exact releases_check owned₂ rfl e₂ fun _ => releases_check owned₃ rfl e₃ fun _ =>
      releases_check owned₄ rfl e₄ fun _ => releases_kept owned₄ none
  | some s =>
    simp only [passed, nonneg, Option.isSome_some, Option.isSome_none, Bool.false_eq_true,
      and_false, false_or, true_and, not_or, Option.not_isSome_iff_eq_none] at safe
    obtain ⟨rfl, rfl, rfl⟩ := safe
    obtain ⟨heap', released, gone⟩ := releases_kept owned₄ none
    refine ⟨heap', by simpa [check] using released, fun p => ?_⟩
    have fresh : heap.live heap.next = false := heap.next_dead
    rw [gone]
    by_cases same : p = heap.next
    · subst same; simp [fresh, mallocString, policyBlocks]
    · simp [mallocString, policyBlocks, same]

end Lifecycle

/-- Over a policy's whole life, `qd_policy`, `qd_entity_configure_policy` and `qd_policy_free`
when the configuration does not free `policyDir` twice, every block is given back except the
`tree_lock` mutex `qd_policy` made: `qd_policy_free` never calls `sys_mutex_free`. -/
theorem policyLifecycle_leaks_treeLock (heap : Heap) (entity : QdEntity)
    (safe : ¬FailsHoldingDir (qdPolicy heap).1 entity) :
    ∃ heap', policyLifecycle heap entity = some heap' ∧
      ∀ p, heap'.live p = true ↔ heap.live p = true ∨ p = (qdPolicy heap).1.treeLock := by
  obtain ⟨heap', released, gone⟩ :=
    releases_qdEntityConfigurePolicy (qdPolicy_owned heap) (qdPolicy_policyDir heap) safe
  refine ⟨heap', released, fun p => ?_⟩
  have below := heap.below p
  rw [gone]
  simp only [qdPolicy, policyBlocks, Heap.malloc_fst, Heap.live_malloc, Heap.next_malloc, Bool.or_eq_true,
    beq_iff_eq, List.mem_cons, Option.map_none', Option.toList_none, List.not_mem_nil, or_false]
  by_cases live : heap.live p = true
  · have := below live
    simp only [live, or_true, true_or, true_and, iff_true]
    omega
  · simp only [live, Bool.false_eq_true, or_false, false_or]
    constructor <;> intro h <;> omega

theorem defaultEntity_leaks_treeLock :
    ¬FailsHoldingDir (qdPolicy emptyHeap).1 defaultEntity ∧
      ∃ heap', policyLifecycle emptyHeap defaultEntity = some heap' ∧
        ∀ p, heap'.live p = true ↔ emptyHeap.live p = true ∨ p = (qdPolicy emptyHeap).1.treeLock :=
  ⟨by decide, policyLifecycle_leaks_treeLock emptyHeap defaultEntity (by decide)⟩

end DispatchRouter.PolicyConfig
