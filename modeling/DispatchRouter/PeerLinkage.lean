import DispatchRouter.DeliveryTags

/-! Peer linkage of deliveries over a run of forwarding calls. `qdr_forward_new_delivery_CT`
points every unsettled copy at its in-delivery, but links the in-delivery back only to the first
copy (the source's "TODO - make this a back-list for multicast tracking"). So the peer relation
is not symmetric once an in-delivery is copied twice; what holds is that the pointers form stars:
each in-delivery paired both ways with its first unsettled copy, and its later copies pointing at
it unanswered. -/

namespace DispatchRouter.PeerLinkage
open RouterCore Forwarder ForwarderSteps DeliveryTags

theorem lt_of_peerOf_some {core : QdrCore} {dlv peer : Nat} (linked : peerOf core dlv = some peer) :
    dlv < core.deliveries.length := by
  by_contra outside
  simp [peerOf, List.getElem?_eq_none (not_lt.1 outside)] at linked

theorem peerOf_copyToLink (core : QdrCore) (inDelivery : Option Nat) (link msg dlv : Nat) :
    peerOf (copyToLink core inDelivery link msg) dlv =
      if dlv < core.deliveries.length then
        if inDelivery = some dlv ∧ peerSettled core inDelivery = false ∧ peerOf core dlv = none then
          some core.deliveries.length
        else peerOf core dlv
      else if dlv = core.deliveries.length then
        if peerSettled core inDelivery then none else inDelivery
      else none := by
  rw [peerOf, copyToLink_deliveries]
  split_ifs with old linking new settledNew
  · obtain ⟨rfl, unsettled, unset⟩ := linking
    rw [List.getElem?_append_left (by simp [unsettled, old])]
    simp only [unsettled, List.getElem?_modify, if_true]
    simp only [peerOf] at unset
    cases found : core.deliveries[dlv]? <;> simp_all [linkBack]
  · rw [List.getElem?_append_left (by split <;> simp [old])]
    split
    · next p _ =>
      rw [List.getElem?_modify]
      cases found : core.deliveries[dlv]? with
      | none => simp [peerOf, found]
      | some record =>
        by_cases same : p = dlv
        · subst same
          have set : record.peer ≠ none := fun unset =>
            linking ⟨rfl, by simp_all, by simp [peerOf, found, unset]⟩
          obtain ⟨q, linked⟩ := Option.ne_none_iff_exists'.1 set
          simp [peerOf, found, linkBack, linked]
        · simp [peerOf, found, same]
    · rfl
  iterate 2
    subst new
    rw [List.getElem?_append_right (by split <;> simp)]
    split <;> simp [newDelivery, settledNew]
  · rw [List.getElem?_eq_none (by split <;> simp <;> omega)]
    rfl

theorem peerOf_acceptDelivery (core : QdrCore) (dlv other : Nat) :
    peerOf (acceptDelivery core dlv) other = peerOf core other := by
  simp only [peerOf, acceptDelivery, List.getElem?_modify]
  cases core.deliveries[other]? with
  | none => rfl
  | some record => by_cases same : dlv = other <;> simp [same]

/-! ## Peer stars -/

/-- The shape forwarding gives the peer pointers: a pointer `a → b` is returned, or `b` is paired
both ways with a delivery `c` made after `b` and before `a`. Each in-delivery is thus paired with
its first unsettled copy, and its later copies point at it unanswered. -/
def PeerStars (peer : Nat → Option Nat) : Prop :=
  ∀ a b, peer a = some b → peer b = some a ∨ ∃ c, b < c ∧ c < a ∧ peer b = some c ∧ peer c = some b

section Stars
variable {peer : Nat → Option Nat}

theorem PeerStars.not_target (stars : PeerStars peer) {b : Nat} (unset : peer b = none) (a : Nat) :
    peer a ≠ some b := fun linked => by
  rcases stars a b linked with back | ⟨c, -, -, found, -⟩ <;> simp_all

theorem PeerStars.pair (stars : PeerStars peer) {p n : Nat} (distinct : p ≠ n) (unsetP : peer p = none)
    (unsetN : peer n = none) :
    PeerStars fun d => if d = p then some n else if d = n then some p else peer d := by
  have setApart : ∀ d, peer d ≠ none → d ≠ p ∧ d ≠ n := fun d set =>
    ⟨fun same => set (same ▸ unsetP), fun same => set (same ▸ unsetN)⟩
  intro a b linked
  by_cases first : a = p
  · subst first
    obtain rfl : n = b := by simpa using linked
    exact .inl (by simp [Ne.symm distinct])
  by_cases second : a = n
  · subst second
    obtain rfl : p = b := by simpa [first] using linked
    exact .inl (by simp)
  simp only [first, second, if_false] at linked
  have bApart := setApart b fun unset => stars.not_target unset a linked
  rcases stars a b linked with back | ⟨c, after, before, found, back⟩
  · exact .inl (by simp [bApart, back, first, second])
  · have cApart := setApart c (by simp [back])
    exact .inr ⟨c, after, before, by simp [bApart, found], by simp [cApart, back]⟩

theorem PeerStars.extra (stars : PeerStars peer) {p c n : Nat} (after : p < c) (before : c < n)
    (linked : peer p = some c) (back : peer c = some p) (unsetN : peer n = none) :
    PeerStars fun d => if d = n then some p else peer d := by
  have notN : ∀ d, peer d ≠ none → d ≠ n := fun d set same => set (same ▸ unsetN)
  intro a b pointed
  by_cases fresh : a = n
  · subst fresh
    obtain rfl : p = b := by simpa using pointed
    exact .inr ⟨c, after, before, by simp [notN p (by simp [linked]), linked],
      by simp [notN c (by simp [back]), back]⟩
  simp only [fresh, if_false] at pointed
  have bNotN := notN b fun unset => stars.not_target unset a pointed
  rcases stars a b pointed with returned | ⟨c', after', before', found, back'⟩
  · exact .inl (by simp [bNotN, fresh, returned])
  · exact .inr ⟨c', after', before', by simp [bNotN, found], by simp [notN c' (by simp [back']), back']⟩

/-- Under the stars, the peer relation is symmetric exactly when no delivery is the peer of two. -/
theorem PeerStars.symmetric_iff (stars : PeerStars peer) :
    (∀ a b, peer a = some b → peer b = some a) ↔ ∀ a d b, peer a = some b → peer d = some b → a = d := by
  refine ⟨fun symmetric a d b linked linked' => ?_, fun single a b linked => ?_⟩
  · exact Option.some.inj ((symmetric a b linked).symm.trans (symmetric d b linked'))
  · rcases stars a b linked with back | ⟨c, -, before, -, back⟩
    · exact back
    · exact absurd (single c a b back linked) before.ne

end Stars

/-! ## One forwarding call -/

/-- The invariant during one call with in-delivery `inDelivery`: the peer pointers form stars, the
in-delivery is unlinked or paired both ways with a later delivery, and the in-deliveries `later` of
the calls still to come are allocated and unlinked. -/
structure CallInvariant (later : List Nat) (inDelivery : Option Nat) (core : QdrCore) : Prop where
  stars : PeerStars (peerOf core)
  paired : ∀ p, inDelivery = some p →
    peerOf core p = none ∨ ∃ c, p < c ∧ peerOf core p = some c ∧ peerOf core c = some p
  allocated : ∀ q ∈ later, q < core.deliveries.length
  unlinked : ∀ q ∈ later, peerOf core q = none

theorem CallInvariant.of_peers {later : List Nat} {inDelivery : Option Nat} {core core' : QdrCore}
    (inv : CallInvariant later inDelivery core) (same : peerOf core' = peerOf core)
    (grows : core.deliveries.length ≤ core'.deliveries.length) :
    CallInvariant later inDelivery core' where
  stars := same ▸ inv.stars
  paired := same ▸ inv.paired
  allocated q mem := lt_of_lt_of_le (inv.allocated q mem) grows
  unlinked := same ▸ inv.unlinked

theorem allocated_of_unsettled {core : QdrCore} {inDelivery : Option Nat}
    (unsettled : peerSettled core inDelivery = false) :
    ∃ p, inDelivery = some p ∧ p < core.deliveries.length := by
  unfold peerSettled at unsettled
  cases inDelivery with
  | none => simp at unsettled
  | some p =>
    refine ⟨p, rfl, ?_⟩
    by_contra outside
    simp [List.getElem?_eq_none (not_lt.1 outside)] at unsettled

theorem peerOf_unallocated {core : QdrCore} {dlv : Nat} (outside : core.deliveries.length ≤ dlv) :
    peerOf core dlv = none := by
  cases linked : peerOf core dlv with
  | none => rfl
  | some _ => exact absurd (lt_of_peerOf_some linked) (by omega)

theorem peerOf_copyToLink_unset (core : QdrCore) (p link msg : Nat)
    (settled : peerSettled core (some p) = false) (unset : peerOf core p = none) :
    peerOf (copyToLink core (some p) link msg) = fun d =>
      if d = p then some core.deliveries.length
      else if d = core.deliveries.length then some p else peerOf core d := by
  obtain ⟨_, same, allocated⟩ := allocated_of_unsettled settled
  cases same
  funext d
  rw [peerOf_copyToLink, settled]
  split_ifs <;> simp_all [peerOf_unallocated]

theorem peerOf_copyToLink_linked (core : QdrCore) (p c link msg : Nat)
    (settled : peerSettled core (some p) = false) (linked : peerOf core p = some c) :
    peerOf (copyToLink core (some p) link msg) = fun d =>
      if d = core.deliveries.length then some p else peerOf core d := by
  funext d
  rw [peerOf_copyToLink, settled]
  split_ifs <;> simp_all [peerOf_unallocated]

theorem CallInvariant.copy {later : List Nat} {inDelivery : Option Nat} {core : QdrCore}
    (inv : CallInvariant later inDelivery core) (notLater : ∀ p, inDelivery = some p → p ∉ later)
    (link msg : Nat) : CallInvariant later inDelivery (copyToLink core inDelivery link msg) := by
  have grows : core.deliveries.length ≤ (copyToLink core inDelivery link msg).deliveries.length := by
    simp
  have allocatedLater q mem := lt_of_lt_of_le (inv.allocated q mem) grows
  cases settled : peerSettled core inDelivery
  case true =>
    refine inv.of_peers (funext fun d => ?_) grows
    rw [peerOf_copyToLink, settled]
    simp only [Bool.true_eq_false, false_and, and_false, if_false, if_true]
    split_ifs with old new
    · rfl
    · exact (peerOf_unallocated new.ge).symm
    · exact (peerOf_unallocated (by omega)).symm
  case false =>
    obtain ⟨p, rfl, allocated⟩ := allocated_of_unsettled settled
    have later : ∀ q ∈ later, q ≠ p ∧ q ≠ core.deliveries.length := fun q mem =>
      ⟨fun same => notLater p rfl (same ▸ mem), (inv.allocated q mem).ne⟩
    rcases inv.paired p rfl with unset | ⟨c, after, linked, back⟩
    · have shape := peerOf_copyToLink_unset core p link msg settled unset
      refine ⟨shape ▸ inv.stars.pair allocated.ne unset (peerOf_unallocated le_rfl),
        fun _ same => .inr ⟨core.deliveries.length, ?_⟩, allocatedLater, fun q mem => ?_⟩
      · cases same
        simp [shape, allocated, allocated.ne']
      · simp [shape, later q mem, inv.unlinked q mem]
    · have shape := peerOf_copyToLink_linked core p c link msg settled linked
      have cAllocated := lt_of_peerOf_some back
      refine ⟨shape ▸ inv.stars.extra after cAllocated linked back (peerOf_unallocated le_rfl),
        fun _ same => .inr ⟨c, ?_⟩, allocatedLater, fun q mem => ?_⟩
      · cases same
        simp [shape, after, allocated.ne, cAllocated.ne, linked, back]
      · simp [shape, later q mem, inv.unlinked q mem]

theorem callInvariant_closed (later : List Nat) (inDelivery : Option Nat) (msg : Nat)
    (notLater : ∀ p, inDelivery = some p → p ∉ later) :
    ForwardClosed (fun core _ => CallInvariant later inDelivery core) inDelivery msg where
  copy _ link _ inv := inv.copy notLater link msg
  post _ _ _ _ inv := inv.of_peers rfl le_rfl
  accept core dlv _ _ inv := inv.of_peers (funext (peerOf_acceptDelivery core dlv))
    (acceptDelivery_length core dlv).ge

/-! ## A run of forwarding calls -/

/-- The in-deliveries of a run's calls, in order. -/
def inDeliveries (calls : List ForwardCall) : List Nat := calls.filterMap (·.inDelivery)

theorem inDeliveries_cons (call : ForwardCall) (calls : List ForwardCall) :
    inDeliveries (call :: calls) = call.inDelivery.toList ++ inDeliveries calls := by
  cases found : call.inDelivery <;> simp [inDeliveries, List.filterMap_cons, found]

/-- Before the calls `calls`: the peer pointers form stars, and the calls' in-deliveries are
distinct, allocated and unlinked. -/
structure RunInvariant (calls : List ForwardCall) (core : QdrCore) : Prop where
  stars : PeerStars (peerOf core)
  distinct : (inDeliveries calls).Nodup
  allocated : ∀ q ∈ inDeliveries calls, q < core.deliveries.length
  unlinked : ∀ q ∈ inDeliveries calls, peerOf core q = none

theorem RunInvariant.head {call : ForwardCall} {calls : List ForwardCall} {core : QdrCore}
    (inv : RunInvariant (call :: calls) core) :
    CallInvariant (inDeliveries calls) call.inDelivery core ∧
      (∀ p, call.inDelivery = some p → p ∉ inDeliveries calls) ∧ (inDeliveries calls).Nodup := by
  have distinct := inv.distinct
  have allocated := inv.allocated
  have unlinked := inv.unlinked
  simp only [inDeliveries_cons, List.nodup_append, List.mem_append] at distinct allocated unlinked
  refine ⟨⟨inv.stars, fun p first => .inl (unlinked p (.inl (by simp [first]))),
    fun q mem => allocated q (.inr mem), fun q mem => unlinked q (.inr mem)⟩,
    fun p first => distinct.2.2 (by simp [first]), distinct.2.1⟩

theorem CallInvariant.tail {calls : List ForwardCall} {inDelivery : Option Nat} {core : QdrCore}
    (inv : CallInvariant (inDeliveries calls) inDelivery core) (distinct : (inDeliveries calls).Nodup) :
    RunInvariant calls core :=
  ⟨inv.stars, distinct, inv.allocated, inv.unlinked⟩

theorem qdrForwardRun_stars :
    ∀ (calls : List ForwardCall) {core core' : QdrCore}, RunInvariant calls core →
      qdrForwardRun core calls = some core' → PeerStars (peerOf core')
  | [], _, _, inv, run => by cases run; exact inv.stars
  | call :: calls, core, core', inv, run => by
    unfold qdrForwardRun at run
    split at run
    · next after _ _ forwarded =>
      obtain ⟨start, notLater, distinct⟩ := inv.head
      exact qdrForwardRun_stars calls
        ((qdrForwardMessageCT_closed (callInvariant_closed _ _ _ notLater) start forwarded).tail
          distinct) run
    · cases run

end DispatchRouter.PeerLinkage
