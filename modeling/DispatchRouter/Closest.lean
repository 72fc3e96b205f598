import DispatchRouter.Multicast
import Mathlib.Data.List.Rotate

/-! What `qdr_forward_closest_CT` does. One call makes at most one copy: to the head
subscription, else to the head local link, else down the traffic-class link towards the router of
the lowest bit of `rnodes`; it looks at no other bit. Over a run of calls on one address that all
take the same branch, the subscription or link list is rotated by one per call, so the `i`-th call
uses element `i mod n` of the initial list and each element gets `⌊k/n⌋` or `⌈k/n⌉` copies. -/

namespace DispatchRouter.Closest
open RouterCore Forwarder ForwarderSteps Multicast

/-! ## One call -/

/-- The destination `qdr_forward_closest_CT` can use: an in-process subscription unless excluded,
a local link, or the router of the lowest bit of `rnodes` when its next hop has a link of the
traffic class. -/
def ClosestUsable (core : QdrCore) (addr : QdrAddress) (excludeInprocess control : Bool) : Prop :=
  (excludeInprocess = false ∧ addr.subscriptions ≠ []) ∨ addr.rlinks ≠ [] ∨
    ∃ r rnode, addr.rnodes.firstSet = some r ∧ core.routersByMaskBit r = some rnode ∧
      (nextHopLink core control rnode).isSome

/-- The usable destinations as the policy of the specification lists them: any router of `rnodes`,
not only the lowest, counts. -/
def AnyRouterUsable (core : QdrCore) (addr : QdrAddress) (excludeInprocess control : Bool) : Prop :=
  (excludeInprocess = false ∧ addr.subscriptions ≠ []) ∨ addr.rlinks ≠ [] ∨
    ∃ r ∈ addr.rnodes.bits, ∃ rnode, core.routersByMaskBit r = some rnode ∧
      (nextHopLink core control rnode).isSome

theorem qdrForwardClosestCT_usable (core : QdrCore) (addr : QdrAddress) (msg : Nat)
    (inDelivery : Option Nat) (excludeInprocess control : Bool) (linkExclusion : Option Bitmask) :
    (qdrForwardClosestCT core addr msg inDelivery excludeInprocess control linkExclusion).2.2 = 1 ∧
        ClosestUsable core addr excludeInprocess control ∨
      (qdrForwardClosestCT core addr msg inDelivery excludeInprocess control linkExclusion).2.2 = 0 ∧
        ¬ ClosestUsable core addr excludeInprocess control := by
  unfold qdrForwardClosestCT ClosestUsable
  split
  next subs => exact .inl ⟨rfl, .inl ⟨rfl, by simp [subs]⟩⟩
  next excl _ _ noSub =>
    split
    next links => exact .inl ⟨rfl, .inr (.inl (by simp [links]))⟩
    next links =>
      have noLocal : ¬(excl = false ∧ addr.subscriptions ≠ []) := by
        rintro ⟨isFalse, nonempty⟩
        obtain ⟨sub, rest, listed⟩ := List.exists_cons_of_ne_nil nonempty
        exact noSub sub rest isFalse listed
      simp only [noLocal, links, ne_eq, not_true_eq_false, false_or, peerLink_eq_nextHopLink]
      cases first : addr.rnodes.firstSet with
      | none => simp
      | some r =>
        cases routed : core.routersByMaskBit r with
        | none => simp [routed]
        | some rnode => cases found : nextHopLink core control rnode <;> simp [routed, found]

/-- `qdr_forward_closest_CT` returns the number of copies it queues or posts: 1 when the head
subscription (unless excluded), a local link, or the router of the lowest bit of `rnodes` is
usable, and 0, with no copy, otherwise. -/
theorem qdrForwardClosestCT_fanout (core : QdrCore) (addr : QdrAddress) (msg : Nat)
    (inDelivery : Option Nat) (excludeInprocess control : Bool) (linkExclusion : Option Bitmask) :
    Counted core (qdrForwardClosestCT core addr msg inDelivery excludeInprocess control linkExclusion).1
        (qdrForwardClosestCT core addr msg inDelivery excludeInprocess control linkExclusion).2.2 ∧
      ((qdrForwardClosestCT core addr msg inDelivery excludeInprocess control linkExclusion).2.2 = 1 ↔
        ClosestUsable core addr excludeInprocess control) ∧
      ((qdrForwardClosestCT core addr msg inDelivery excludeInprocess control linkExclusion).2.2 = 0 ↔
        ¬ ClosestUsable core addr excludeInprocess control) := by
  refine ⟨qdrForwardClosestCT_closed (counted_closed core inDelivery msg) addr excludeInprocess control
    linkExclusion (counted_start core), ?_⟩
  rcases qdrForwardClosestCT_usable core addr msg inDelivery excludeInprocess control linkExclusion with
    ⟨one, usable⟩ | ⟨zero, unusable⟩
  · simp only [one, usable, true_iff, not_true_eq_false, iff_false]
    decide
  · simp only [zero, unusable, not_false_eq_true, iff_true, zero_ne_one, false_iff]
    trivial

/-- Two routers: the one on mask bit 0 is unknown, and router 1 on mask bit 1 is a neighbor with a
data link, link 4. -/
def twoRouterCore : QdrCore :=
  { exampleCore with
    routersByMaskBit := fun bit => if bit = 1 then some 1 else none
    nodes := fun _ => ⟨1, none, none, some 4, Bitmask.empty⟩ }

/-- An anycast address with no local consumer and consumers behind the routers of bits 0 and 1. -/
def twoRouterAddress : QdrAddress :=
  { exampleAddress with
    rlinks := []
    rnodes := ⟨[0, 1], by decide⟩
    forwarder := some (qdrForwarderCT .anycastClosest) }

/-- The router of bit 1 is usable, but the forwarder only tries the lowest bit and makes no copy. -/
theorem twoRouterAddress_unforwarded :
    AnyRouterUsable twoRouterCore twoRouterAddress false false ∧
      (qdrForwardClosestCT twoRouterCore twoRouterAddress 7 none false false none).2.2 = 0 :=
  ⟨.inr (.inr ⟨1, by decide, 1, rfl, rfl⟩), rfl⟩

/-! ## Round robin -/

/-- The heads of `l` and of its successive left rotations, `k` of them. -/
def cycle {α : Type} (l : List α) : Nat → List α
  | 0 => []
  | k + 1 => l.head?.toList ++ cycle (l.rotate 1) k

section Cycle
variable {α : Type}

theorem cycle_add (l : List α) (a b : Nat) : cycle l (a + b) = cycle l a ++ cycle (l.rotate a) b := by
  induction a generalizing l with
  | zero => simp [cycle]
  | succ a ih =>
    rw [Nat.add_right_comm, cycle, ih, cycle, List.rotate_rotate, Nat.add_comm 1 a, List.append_assoc]

theorem cycle_of_le {l : List α} {m : Nat} (short : m ≤ l.length) : cycle l m = l.take m := by
  induction m generalizing l with
  | zero => rfl
  | succ m ih =>
    obtain _ | ⟨a, t⟩ := l
    · simp at short
    · simp only [List.length_cons] at short
      rw [cycle, List.rotate_cons_succ, List.rotate_zero, ih (by simp; omega),
        List.take_append_of_le_length (by omega)]
      rfl

theorem length_cycle {l : List α} (nonempty : l ≠ []) (k : Nat) : (cycle l k).length = k := by
  induction k generalizing l with
  | zero => rfl
  | succ k ih =>
    obtain ⟨a, t, rfl⟩ := List.exists_cons_of_ne_nil nonempty
    rw [cycle, List.length_append, ih (by simp [List.rotate_eq_nil_iff])]
    simp; omega

theorem getElem?_cycle {l : List α} (nonempty : l ≠ []) {k i : Nat} (before : i < k) :
    (cycle l k)[i]? = l[i % l.length]? := by
  obtain ⟨rest, rfl⟩ : ∃ rest, k = i + (rest + 1) := ⟨k - i - 1, by omega⟩
  have positive := List.length_pos.2 nonempty
  have head : (l.rotate i).head? = l[i % l.length]? := by
    rw [List.head?_eq_getElem?, List.getElem?_rotate positive, Nat.zero_add]
  obtain ⟨x, found⟩ : ∃ x, l[i % l.length]? = some x :=
    ⟨_, List.getElem?_eq_getElem (Nat.mod_lt _ positive)⟩
  rw [cycle_add, List.getElem?_append_right (by rw [length_cycle nonempty]), length_cycle nonempty,
    Nat.sub_self, cycle, head, found]
  simp

theorem cycle_length_add (l : List α) (k : Nat) : cycle l (l.length + k) = l ++ cycle l k := by
  rw [cycle_add, cycle_of_le le_rfl, List.take_length, List.rotate_length]

theorem count_cycle [DecidableEq α] {l : List α} (distinct : l.Nodup) {x : α} (mem : x ∈ l) (k : Nat) :
    (cycle l k).count x = k / l.length ∨ (cycle l k).count x = (k + l.length - 1) / l.length := by
  have positive : 0 < l.length := List.length_pos_of_mem mem
  induction k using Nat.strong_induction_on with
  | _ k ih =>
    by_cases short : k < l.length
    · have once : (cycle l k).count x ≤ 1 := by
        rw [cycle_of_le short.le]
        exact List.nodup_iff_count_le_one.1 (distinct.sublist (List.take_sublist k l)) x
      rcases Nat.le_one_iff_eq_zero_or_eq_one.1 once with never | one
      · exact .inl (never.trans (Nat.div_eq_of_lt short).symm)
      · have started : 0 < k := by
          rcases Nat.eq_zero_or_pos k with rfl | started
          · simp [cycle] at one
          · exact started
        exact .inr (one.trans (Nat.div_eq_of_lt_le (by omega) (by omega)).symm)
    · obtain ⟨rest, rfl⟩ : ∃ rest, k = l.length + rest := ⟨k - l.length, by omega⟩
      rw [cycle_length_add, List.count_append, List.count_eq_one_of_mem distinct mem,
        show l.length + rest + l.length - 1 = l.length + (rest + l.length - 1) by omega,
        Nat.add_div_left _ positive, Nat.add_div_left _ positive]
      have later := ih rest (by omega)
      omega

end Cycle

theorem rotate_one_of_cons {α : Type} {l : List α} {head : α} {rest : List α} (split : l = head :: rest) :
    (if l.length > 1 then rest ++ [head] else l) = l.rotate 1 := by
  subst split
  split_ifs with long
  · simp [List.rotate_cons_succ]
  · simp only [List.length_cons, gt_iff_lt, not_lt] at long
    obtain rfl : rest = [] := List.length_eq_zero.1 (by omega)
    simp

theorem copyToLink_map_link (core : QdrCore) (inDelivery : Option Nat) (link msg : Nat) :
    (copyToLink core inDelivery link msg).deliveries.map QdrDelivery.link =
      core.deliveries.map QdrDelivery.link ++ [link] := by
  apply List.ext_getElem?
  intro dlv
  have linked := linkOf_copyToLink core inDelivery link msg dlv
  simp only [linkOf] at linked
  rw [List.getElem?_map, linked]
  split_ifs with old new
  · rw [List.getElem?_append_left (by simpa using old), List.getElem?_map]
  · subst new
    simp
  · rw [List.getElem?_eq_none (by simp; omega)]

theorem copiesTo_cons (next link : Nat) (links : List Nat) :
    copiesTo next (link :: links) = (link, next) :: copiesTo (next + 1) links := rfl

theorem qdrForwardClosestCT_inprocess (core : QdrCore) {addr : QdrAddress} {sub : QdrSubscription}
    {rest : List QdrSubscription} (subscribed : addr.subscriptions = sub :: rest) (msg : Nat)
    (inDelivery : Option Nat) (control : Bool) (linkExclusion : Option Bitmask) :
    (∃ work, handedTo work = sub ∧ work.msg = msg ∧
      Appended core (qdrForwardClosestCT core addr msg inDelivery false control linkExclusion).1 [] [work]) ∧
      (qdrForwardClosestCT core addr msg inDelivery false control linkExclusion).2.1.subscriptions =
        addr.subscriptions.rotate 1 := by
  simp only [qdrForwardClosestCT, subscribed]
  refine ⟨?_, rotate_one_of_cons rfl⟩
  obtain ⟨work, handed, carried, posting⟩ :=
    appended_qdrForwardOnMessageCT core sub (inLink core inDelivery) msg
  refine ⟨work, handed, carried, ?_⟩
  split
  · split
    · exact ⟨fun link => by simp [posting.1 link], by simp [posting.2]⟩
    · exact posting
  · exact posting

theorem qdrForwardClosestCT_local (core : QdrCore) {addr : QdrAddress} {ref : QdrLinkRef}
    {rest : List QdrLinkRef} (linked : addr.rlinks = ref :: rest) (msg : Nat) (inDelivery : Option Nat)
    {excludeInprocess : Bool} (control : Bool) (linkExclusion : Option Bitmask)
    (selected : excludeInprocess = true ∨ addr.subscriptions = []) :
    (qdrForwardClosestCT core addr msg inDelivery excludeInprocess control linkExclusion).1 =
        copyToLink core inDelivery ref.link msg ∧
      (qdrForwardClosestCT core addr msg inDelivery excludeInprocess control linkExclusion).2.1.rlinks =
        addr.rlinks.rotate 1 ∧
      (qdrForwardClosestCT core addr msg inDelivery excludeInprocess control linkExclusion).2.1.subscriptions =
        addr.subscriptions := by
  have skipped : (qdrForwardClosestCT core addr msg inDelivery excludeInprocess control linkExclusion) =
      (copyToLink core inDelivery ref.link msg,
        { addr with rlinks := if addr.rlinks.length > 1 then rest ++ [ref] else addr.rlinks,
                    deliveriesEgress := addr.deliveriesEgress + 1 }, 1) := by
    rcases selected with rfl | unsubscribed
    · simp only [qdrForwardClosestCT, linked]
      rfl
    · cases excludeInprocess <;> simp only [qdrForwardClosestCT, unsubscribed, linked] <;> rfl
  rw [skipped]
  exact ⟨rfl, rotate_one_of_cons linked, rfl⟩

theorem qdrForwardClosestCT_rlinks (core : QdrCore) (addr : QdrAddress) (msg : Nat) (inDelivery : Option Nat)
    (excludeInprocess control : Bool) (linkExclusion : Option Bitmask) :
    ∃ turns, (qdrForwardClosestCT core addr msg inDelivery excludeInprocess control linkExclusion).2.1.rlinks =
      addr.rlinks.rotate turns := by
  unfold qdrForwardClosestCT
  dsimp only
  split
  · exact ⟨0, (List.rotate_zero _).symm⟩
  · split
    · next ref rest linked => exact ⟨1, rotate_one_of_cons linked⟩
    · repeat' split
      all_goals exact ⟨0, (List.rotate_zero _).symm⟩

theorem addressRef_closed (before : QdrCore) (inDelivery : Option Nat) (msg : Nat) :
    ForwardClosed (fun core _ => ∀ link, (core.links link).addressRef = (before.links link).addressRef)
      inDelivery msg where
  copy core link _ kept other := by
    rw [← kept other, copyToLink_links, Function.update_apply]
    split
    next same => rw [same]
    next => rfl
  post _ _ _ _ kept := kept
  accept _ _ _ _ kept := kept

/-- The arguments of one `qdr_forward_closest_CT` call. -/
structure ClosestCall where
  msg : Nat
  inDelivery : Option Nat
  excludeInprocess : Bool
  control : Bool
  linkExclusion : Option Bitmask

/-- Successive `qdr_forward_closest_CT` calls on one address, each on the core and the address the
one before leaves; nothing else changes the address in between. -/
def closestRun (core : QdrCore) (addr : QdrAddress) : List ClosestCall → QdrCore × QdrAddress
  | [] => (core, addr)
  | call :: calls =>
    let result := qdrForwardClosestCT core addr call.msg call.inDelivery call.excludeInprocess call.control
      call.linkExclusion
    closestRun result.1 result.2.1 calls

theorem closestRun_addressRefs : ∀ (calls : List ClosestCall) (core : QdrCore) (addr : QdrAddress),
    AddressRefs core addr.rlinks →
      AddressRefs (closestRun core addr calls).1 (closestRun core addr calls).2.rlinks
  | [], _, _, refs => refs
  | call :: calls, core, addr, refs => by
    obtain ⟨turns, rotated⟩ := qdrForwardClosestCT_rlinks core addr call.msg call.inDelivery
      call.excludeInprocess call.control call.linkExclusion
    have kept := qdrForwardClosestCT_closed (addressRef_closed core call.inDelivery call.msg) addr
      call.excludeInprocess call.control call.linkExclusion (fun _ => rfl)
    refine closestRun_addressRefs calls _ _ fun ref mem => ?_
    rw [rotated, List.mem_rotate] at mem
    exact (kept ref.link).trans (refs ref mem)

theorem closestRun_inprocess : ∀ (calls : List ClosestCall) (core : QdrCore) (addr : QdrAddress),
    addr.subscriptions ≠ [] → (∀ call ∈ calls, call.excludeInprocess = false) →
    ∃ posted, Appended core (closestRun core addr calls).1 [] posted ∧
      posted.map handedTo = cycle addr.subscriptions calls.length ∧
      posted.map (·.msg) = calls.map (·.msg) ∧
      (closestRun core addr calls).2.subscriptions = addr.subscriptions.rotate calls.length
  | [], core, addr, _, _ => ⟨[], appended_refl core, rfl, rfl, (List.rotate_zero _).symm⟩
  | call :: calls, core, addr, subscribed, selected => by
    obtain ⟨sub, rest, split⟩ := List.exists_cons_of_ne_nil subscribed
    have included := selected call (List.mem_cons_self call calls)
    obtain ⟨⟨work, handed, carried, posting⟩, rotated⟩ := qdrForwardClosestCT_inprocess core split
      call.msg call.inDelivery call.control call.linkExclusion
    rw [← included] at posting rotated
    obtain ⟨posted, appends, used, carries, laterRotated⟩ := closestRun_inprocess calls _ _
      (by rw [rotated, Ne, List.rotate_eq_nil_iff]; exact subscribed)
      (fun other mem => selected other (List.mem_cons_of_mem call mem))
    refine ⟨work :: posted, posting.trans appends, ?_, by simp [carried, carries], ?_⟩
    · rw [List.map_cons, used, rotated, handed, List.length_cons, cycle, split]
      rfl
    · rw [closestRun, laterRotated, rotated, List.rotate_rotate, List.length_cons, Nat.add_comm]

theorem closestRun_local : ∀ (calls : List ClosestCall) (core : QdrCore) (addr : QdrAddress),
    addr.rlinks ≠ [] → (∀ call ∈ calls, call.excludeInprocess = true ∨ addr.subscriptions = []) →
    Appended core (closestRun core addr calls).1
        (copiesTo core.deliveries.length ((cycle addr.rlinks calls.length).map (·.link))) [] ∧
      (closestRun core addr calls).1.deliveries.map QdrDelivery.link =
        core.deliveries.map QdrDelivery.link ++ (cycle addr.rlinks calls.length).map (·.link) ∧
      (closestRun core addr calls).2.rlinks = addr.rlinks.rotate calls.length
  | [], core, addr, _, _ => ⟨appended_refl core, by simp [closestRun, cycle], (List.rotate_zero _).symm⟩
  | call :: calls, core, addr, linked, selected => by
    obtain ⟨ref, rest, split⟩ := List.exists_cons_of_ne_nil linked
    obtain ⟨copied, rotated, kept⟩ := qdrForwardClosestCT_local core split call.msg
      call.inDelivery call.control call.linkExclusion (selected call (List.mem_cons_self call calls))
    have heads : (cycle addr.rlinks (calls.length + 1)).map (·.link) =
        ref.link :: (cycle (addr.rlinks.rotate 1) calls.length).map (·.link) := by
      rw [cycle, split]
      rfl
    rw [closestRun, List.length_cons, heads]
    generalize qdrForwardClosestCT core addr call.msg call.inDelivery call.excludeInprocess call.control
      call.linkExclusion = result at copied rotated kept ⊢
    obtain ⟨core', addr', fanout⟩ := result
    dsimp only at copied rotated kept ⊢
    subst copied
    obtain ⟨appends, later, laterRotated⟩ := closestRun_local calls _ addr'
      (by rw [rotated, Ne, List.rotate_eq_nil_iff]; exact linked)
      (fun other mem => kept ▸ selected other (List.mem_cons_of_mem call mem))
    rw [rotated, copyToLink_length] at appends
    rw [copyToLink_map_link, rotated] at later
    refine ⟨?_, by rw [later]; simp, by rw [laterRotated, rotated, List.rotate_rotate, Nat.add_comm]⟩
    rw [copiesTo_cons]
    exact (appended_copyToLink core call.inDelivery ref.link call.msg).trans appends

/-- `used` lists the elements of `l` that `k` round-robin selections took, in order, and `l'` is the
list they leave: the `i`-th selection takes element `i mod n`, `l'` is `l` rotated `k` times (a
permutation of it), and when the elements are distinct each is taken `⌊k/n⌋` or `⌈k/n⌉` times and
still occurs exactly once in `l'`. -/
def RoundRobin {α : Type} [DecidableEq α] (l used l' : List α) (k : Nat) : Prop :=
  used.length = k ∧ (∀ i < k, used[i]? = l[i % l.length]?) ∧ l' = l.rotate k ∧ l'.Perm l ∧
    (l.Nodup → ∀ x ∈ l,
      (used.count x = k / l.length ∨ used.count x = (k + l.length - 1) / l.length) ∧ l'.count x = 1)

theorem roundRobin_cycle {α : Type} [DecidableEq α] {l : List α} (nonempty : l ≠ []) (k : Nat) :
    RoundRobin l (cycle l k) (l.rotate k) k :=
  ⟨length_cycle nonempty k, fun _ before => getElem?_cycle nonempty before, rfl, List.rotate_perm l k,
    fun distinct x mem => ⟨count_cycle distinct mem k,
      (List.rotate_perm l k).count_eq x ▸ List.count_eq_one_of_mem distinct mem⟩⟩

/-- An anycast address with the three local consumer links 1, 2 and 3, through nodes 1, 2 and 3. -/
def roundRobinAddress : QdrAddress :=
  { exampleAddress with
    rlinks := [⟨1, 1⟩, ⟨2, 2⟩, ⟨3, 3⟩]
    forwarder := some (qdrForwarderCT .anycastClosest) }

/-- Four deliveries of message 7, with no in-delivery, on the data class. -/
def fourCalls : List ClosestCall := List.replicate 4 ⟨7, none, false, false, none⟩

/-- The four deliveries go out on links 1, 2, 3 and 1. -/
example : ((closestRun exampleCore roundRobinAddress fourCalls).1.deliveries.map QdrDelivery.link).drop 1 =
    [1, 2, 3, 1] := by
  decide

end DispatchRouter.Closest
