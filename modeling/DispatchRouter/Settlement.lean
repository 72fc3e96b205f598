import DispatchRouter.RouterNode

/-! Linkage of a router delivery with its proton delivery in router_node.c. The linking step
(`AMQP_rx_handler` on an unsettled delivery the core accepted, or `CORE_link_deliver` on a link
whose peer does not pre-settle) points each delivery's context at the other and takes a reference;
`AMQP_disposition_handler` gives that reference to the core when the peer settles, and
`CORE_delivery_update` drops it when the core settles. Whichever side comes first clears both
contexts, so the other finds a null context and does nothing. -/

namespace DispatchRouter.Settlement
open RouterNode

/-- A `qdr_delivery_update_disposition` call: whether it settles, and whether it gives the
caller's reference to the core. -/
structure QdrDispositionUpdate where
  settled : Bool
  giveReference : Bool
  deriving DecidableEq, Repr

/-- One router delivery and one proton delivery: the context of each (the other's pointer or
null), the references taken with `qdr_delivery_incref` and dropped with `qdr_delivery_decref`,
the disposition updates passed to the core, and whether the proton delivery was settled. -/
structure DeliveryLinkage where
  pndContext : Option Nat
  dlvContext : Option Nat
  increfs : Nat
  decrefs : Nat
  updates : List QdrDispositionUpdate
  pnSettled : Bool
  deriving DecidableEq, Repr

namespace DeliveryLinkage

/-- Neither delivery linked, nothing taken or released. -/
def initial : DeliveryLinkage := ⟨none, none, 0, 0, [], false⟩

/-- `pn_delivery_set_context`, `qdr_delivery_set_context` and `qdr_delivery_incref`. -/
def link (s : DeliveryLinkage) (dlv pnd : Nat) : DeliveryLinkage :=
  { s with pndContext := some dlv, dlvContext := some pnd, increfs := s.increfs + 1 }

@[simp] theorem initial_increfs : initial.increfs = 0 := rfl

/-- Both contexts set to null. -/
def unlink (s : DeliveryLinkage) : DeliveryLinkage := { s with pndContext := none, dlvContext := none }

/-- A disposition update passed to the core. -/
def update (s : DeliveryLinkage) (settled giveReference : Bool) : DeliveryLinkage :=
  { s with updates := s.updates ++ [⟨settled, giveReference⟩] }

/-- `pn_delivery_settle`. -/
def settle (s : DeliveryLinkage) : DeliveryLinkage := { s with pnSettled := true }

end DeliveryLinkage

open DeliveryLinkage

/-- The effect on the linkage of an action of `AMQP_rx_handler` on proton delivery `pnd`. -/
def rxActionLinkage (pnd : Nat) (s : DeliveryLinkage) : RxAction → DeliveryLinkage
  | .link dlv => s.link dlv pnd
  | .settle => s.settle
  | _ => s

/-- `CORE_link_deliver` of router delivery `dlv` as proton delivery `pnd`. -/
def coreLinkDeliver (dlv pnd : Nat) (s : DeliveryLinkage) (settled remoteSndSettled : Bool) :
    DeliveryLinkage :=
  let s := if !settled && !remoteSndSettled then s.link dlv pnd else s
  let s := if !settled && remoteSndSettled then s.update true false else s
  if settled || remoteSndSettled then s.settle else s

/-- `AMQP_disposition_handler`, with the peer reporting the delivery settled or not. -/
def amqpDispositionHandler (s : DeliveryLinkage) (remoteSettled : Bool) : DeliveryLinkage :=
  match s.pndContext with
  | none => s
  | some _ =>
    let s := if remoteSettled then s.unlink else s
    let s := s.update remoteSettled remoteSettled
    if remoteSettled then s.settle else s

/-- `CORE_delivery_update`, with the core settling the delivery or not. -/
def coreDeliveryUpdate (s : DeliveryLinkage) (settled : Bool) : DeliveryLinkage :=
  match s.dlvContext with
  | none => s
  | some _ => if settled then { s.unlink.settle with decrefs := s.decrefs + 1 } else s

/-- The events that reach the linkage of one delivery pair. -/
inductive LinkageEvent where
  | rxDelivered (settled : Bool)
  | coreLinkDeliver (settled remoteSndSettled : Bool)
  | disposition (remoteSettled : Bool)
  | deliveryUpdate (settled : Bool)
  deriving DecidableEq, Repr

namespace LinkageEvent

/-- The event is the linking step. -/
def links : LinkageEvent → Bool
  | .rxDelivered settled => !settled
  | .coreLinkDeliver settled remoteSndSettled => !settled && !remoteSndSettled
  | _ => false

/-- The event reports settlement, from the peer or from the core. -/
def settles : LinkageEvent → Bool
  | .disposition remoteSettled => remoteSettled
  | .deliveryUpdate settled => settled
  | _ => false

end LinkageEvent

/-- One event on the pair (`dlv`, `pnd`); `AMQP_rx_handler` acts through `linkDelivery`. -/
def linkageStep (dlv pnd : Nat) (s : DeliveryLinkage) : LinkageEvent → DeliveryLinkage
  | .rxDelivered settled => (linkDelivery settled dlv).foldl (rxActionLinkage pnd) s
  | .coreLinkDeliver settled remoteSndSettled => coreLinkDeliver dlv pnd s settled remoteSndSettled
  | .disposition remoteSettled => amqpDispositionHandler s remoteSettled
  | .deliveryUpdate settled => coreDeliveryUpdate s settled

/-- Any interleaving of events on the pair. -/
def linkageRun (dlv pnd : Nat) (s : DeliveryLinkage) (events : List LinkageEvent) : DeliveryLinkage :=
  events.foldl (linkageStep dlv pnd) s

theorem linkageRun_cons (dlv pnd : Nat) (s : DeliveryLinkage) (e : LinkageEvent)
    (events : List LinkageEvent) :
    linkageRun dlv pnd s (e :: events) = linkageRun dlv pnd (linkageStep dlv pnd s e) events := rfl

theorem linkageRun_append (dlv pnd : Nat) (s : DeliveryLinkage) (pre post : List LinkageEvent) :
    linkageRun dlv pnd s (pre ++ post) = linkageRun dlv pnd (linkageRun dlv pnd s pre) post :=
  List.foldl_append _ _ _ _

/-! ## References -/

/-- The references given to the core with `give_reference`. -/
def given (s : DeliveryLinkage) : Nat := (s.updates.filter (·.giveReference)).length

/-- The references released: given to the core or dropped. -/
def released (s : DeliveryLinkage) : Nat := given s + s.decrefs

/-- The contexts and reference counts, which is all the invariant reads. -/
def refs (s : DeliveryLinkage) : Option Nat × Option Nat × Nat × Nat :=
  (s.pndContext, s.dlvContext, s.increfs, released s)

/-- What one event can do to the contexts and references: nothing (and a settlement report then
found a null context), the linking step, or the release of the reference by the first side that
reports settlement while the pair is linked. -/
theorem linkageStep_refs (dlv pnd : Nat) (s : DeliveryLinkage) (e : LinkageEvent) :
    (e.links = false ∧ refs (linkageStep dlv pnd s e) = refs s ∧
      (e.settles = true → s.pndContext = none ∨ s.dlvContext = none)) ∨
    (e.links = true ∧ refs (linkageStep dlv pnd s e) = (some dlv, some pnd, s.increfs + 1, released s)) ∨
    (e.links = false ∧ e.settles = true ∧ (s.pndContext.isSome ∨ s.dlvContext.isSome) ∧
      refs (linkageStep dlv pnd s e) = (none, none, s.increfs, released s + 1)) := by
  cases e with
  | rxDelivered settled =>
    cases settled <;> simp [linkageStep, linkDelivery, rxActionLinkage, LinkageEvent.links,
      LinkageEvent.settles, refs, released, given, link, settle]
  | coreLinkDeliver settled remoteSndSettled =>
    cases settled <;> cases remoteSndSettled <;> simp [linkageStep, coreLinkDeliver,
      LinkageEvent.links, LinkageEvent.settles, refs, released, given, link, update, settle]
  | disposition remoteSettled =>
    cases found : s.pndContext <;> cases remoteSettled <;>
      simp [linkageStep, amqpDispositionHandler, found, LinkageEvent.links, LinkageEvent.settles,
        refs, released, given, unlink, update, settle]
    omega
  | deliveryUpdate settled =>
    cases found : s.dlvContext <;> cases settled <;>
      simp [linkageStep, coreDeliveryUpdate, found, LinkageEvent.links, LinkageEvent.settles, refs,
        released, given, unlink, settle]
    omega

/-- The contexts point at each other and the reference taken is held, or both are null and every
reference taken was released. -/
def Paired (dlv pnd : Nat) : Option Nat × Option Nat × Nat × Nat → Prop
  | (pndContext, dlvContext, increfs, released) =>
    (pndContext = some dlv ∧ dlvContext = some pnd ∧ released + 1 = increfs) ∨
    (pndContext = none ∧ dlvContext = none ∧ released = increfs)

theorem paired_initial (dlv pnd : Nat) : Paired dlv pnd (refs initial) := .inr ⟨rfl, rfl, rfl⟩

section Run
variable {dlv pnd : Nat} {s : DeliveryLinkage} {e : LinkageEvent}

theorem linkageStep_increfs (dlv pnd : Nat) (s : DeliveryLinkage) (e : LinkageEvent) :
    (linkageStep dlv pnd s e).increfs = s.increfs + if e.links then 1 else 0 := by
  rcases linkageStep_refs dlv pnd s e with ⟨unlinking, same, -⟩ | ⟨linking, shape⟩ |
    ⟨unlinking, -, -, shape⟩
  · simpa [unlinking] using congrArg (·.2.2.1) same
  · simpa [linking] using congrArg (·.2.2.1) shape
  · simpa [unlinking] using congrArg (·.2.2.1) shape

theorem paired_step (inv : Paired dlv pnd (refs s)) (fresh : e.links = true → s.increfs = 0) :
    Paired dlv pnd (refs (linkageStep dlv pnd s e)) := by
  rcases linkageStep_refs dlv pnd s e with ⟨-, same, -⟩ | ⟨linking, shape⟩ | ⟨-, -, linked, shape⟩
  · rwa [same]
  · have noRefs := fresh linking
    rw [shape]
    rcases inv with ⟨-, -, balance⟩ | ⟨-, -, balance⟩
    · omega
    · exact .inl ⟨rfl, rfl, by omega⟩
  · rw [shape]
    rcases inv with ⟨-, -, balance⟩ | ⟨unsetPnd, unsetDlv, -⟩
    · exact .inr ⟨rfl, rfl, balance⟩
    · simp [unsetPnd, unsetDlv] at linked

theorem linkageStep_unlinked (inv : Paired dlv pnd (refs s)) (notLinking : e.links = false)
    (settledOrUnlinked : e.settles = true ∨ s.pndContext = none) :
    (linkageStep dlv pnd s e).pndContext = none := by
  have unlinkedBoth : s.pndContext = none ∨ s.dlvContext = none → s.pndContext = none := by
    rcases inv with ⟨linked, back, -⟩ | ⟨unset, -, -⟩
    · simp [linked, back]
    · exact fun _ => unset
  rcases linkageStep_refs dlv pnd s e with ⟨-, same, reported⟩ | ⟨linking, -⟩ | ⟨-, -, -, shape⟩
  · have := congrArg (·.1) same
    simp only [refs] at this
    rw [this]
    exact unlinkedBoth (settledOrUnlinked.elim (fun settles => reported settles) .inl)
  · simp [linking] at notLinking
  · simpa [refs] using congrArg (·.1) shape

theorem linkCount_cons (e : LinkageEvent) (events : List LinkageEvent) :
    ((e :: events).filter (·.links)).length =
      (if e.links then 1 else 0) + (events.filter (·.links)).length := by
  cases linking : e.links <;> simp [List.filter_cons, linking, Nat.add_comm]

/-- Runs with at most one linking step keep the pair consistent and count one reference per
linking step. -/
theorem paired_run : ∀ (events : List LinkageEvent) {s : DeliveryLinkage},
    Paired dlv pnd (refs s) → s.increfs + (events.filter (·.links)).length ≤ 1 →
    Paired dlv pnd (refs (linkageRun dlv pnd s events)) ∧
      (linkageRun dlv pnd s events).increfs = s.increfs + (events.filter (·.links)).length
  | [], _, inv, _ => ⟨inv, rfl⟩
  | e :: events, s, inv, budget => by
    have counted := linkageStep_increfs dlv pnd s e
    rw [linkCount_cons] at budget ⊢
    obtain ⟨inv', increfs'⟩ := paired_run events
      (paired_step (e := e) inv fun linking => by simp only [linking, if_true] at budget; omega)
      (by omega)
    exact ⟨inv', by rw [linkageRun_cons, increfs', counted]; omega⟩

theorem linkageRun_unlinked : ∀ (events : List LinkageEvent) {s : DeliveryLinkage},
    Paired dlv pnd (refs s) → s.increfs ≤ 1 → events.filter (·.links) = [] →
    ((∃ f ∈ events, f.settles = true) ∨ s.pndContext = none) →
    (linkageRun dlv pnd s events).pndContext = none
  | [], _, _, _, _, reported => by simpa using reported
  | e :: events, s, inv, budget, noLinks, reported => by
    have notLinking : e.links = false := by
      by_contra linking
      simp [List.filter_cons, linking] at noLinks
    have rest : events.filter (·.links) = [] := by simpa [List.filter_cons, notLinking] using noLinks
    have counted := linkageStep_increfs dlv pnd s e
    simp only [notLinking, if_false, Bool.false_eq_true, Nat.add_zero] at counted
    refine linkageRun_unlinked events (paired_step inv (by simp [notLinking])) (counted ▸ budget)
      rest ?_
    by_cases later : ∃ f ∈ events, f.settles = true
    · exact .inl later
    · refine .inr (linkageStep_unlinked inv notLinking ?_)
      simpa [later] using reported

theorem Paired.contexts_iff (inv : Paired dlv pnd (refs s)) :
    s.pndContext = some dlv ↔ s.dlvContext = some pnd := by
  rcases inv with ⟨linked, back, -⟩ | ⟨unset, unsetBack, -⟩ <;> simp [*]

theorem Paired.released_le (inv : Paired dlv pnd (refs s)) : given s + s.decrefs ≤ s.increfs := by
  rcases inv with ⟨-, -, balance⟩ | ⟨-, -, balance⟩ <;> simp only [released] at balance <;> omega

theorem Paired.released_of_unlinked (inv : Paired dlv pnd (refs s)) (unlinked : s.pndContext = none) :
    given s + s.decrefs = s.increfs := by
  rcases inv with ⟨linked, -, -⟩ | ⟨-, -, balanced⟩
  · simp [unlinked] at linked
  · exact balanced

theorem linkageRun_unlinked_of_reported {events pre post : List LinkageEvent}
    (oneLink : (events.filter (·.links)).length ≤ 1) (split : events = pre ++ e :: post)
    (linking : e.links = true) (reported : ∃ f ∈ post, f.settles = true) :
    (linkageRun dlv pnd .initial events).pndContext = none ∧ (events.filter (·.links)).length = 1 := by
  subst split
  simp only [List.filter_append, List.filter_cons, linking, if_true, List.length_append,
    List.length_cons] at oneLink ⊢
  have noLinksPre : (pre.filter (·.links)).length = 0 := by omega
  have noLinksPost : post.filter (·.links) = [] := List.length_eq_zero.1 (by omega)
  obtain ⟨before, increfsBefore⟩ := paired_run pre (paired_initial dlv pnd) (by simp [noLinksPre])
  have counted := linkageStep_increfs dlv pnd (linkageRun dlv pnd .initial pre) e
  refine ⟨?_, by omega⟩
  rw [linkageRun_append, linkageRun_cons]
  exact linkageRun_unlinked post
    (paired_step before fun _ => by simpa [noLinksPre] using increfsBefore)
    (by simp [counted, linking, increfsBefore, noLinksPre]) noLinksPost (.inl reported)

end Run

/-- Over any interleaving of at most one linking step with disposition reports from the peer and
updates from the core: `qdr_delivery_incref` is called once per linking step; the two contexts
point at each other or are both null; the references released, given to the core or dropped, never
exceed those taken, so the one taken is released at most once and never both ways; it is released
once either side reports settlement after the link; and none is released if the pair was never
linked. -/
theorem linkageRun_references (dlv pnd : Nat) (events : List LinkageEvent)
    (oneLink : (events.filter (·.links)).length ≤ 1) :
    (linkageRun dlv pnd .initial events).increfs = (events.filter (·.links)).length ∧
    ((linkageRun dlv pnd .initial events).pndContext = some dlv ↔
      (linkageRun dlv pnd .initial events).dlvContext = some pnd) ∧
    given (linkageRun dlv pnd .initial events) + (linkageRun dlv pnd .initial events).decrefs ≤
      (linkageRun dlv pnd .initial events).increfs ∧
    ((events.filter (·.links)).length = 0 →
      given (linkageRun dlv pnd .initial events) + (linkageRun dlv pnd .initial events).decrefs = 0) ∧
    ∀ pre e post, events = pre ++ e :: post → e.links = true → (∃ f ∈ post, f.settles = true) →
      given (linkageRun dlv pnd .initial events) + (linkageRun dlv pnd .initial events).decrefs = 1 := by
  obtain ⟨inv, increfs⟩ := paired_run events (paired_initial dlv pnd) (by simpa using oneLink)
  simp only [initial_increfs, Nat.zero_add] at increfs
  have balance := inv.released_le
  refine ⟨increfs, inv.contexts_iff, balance, fun noLinks => by omega,
    fun pre e post split linking reported => ?_⟩
  obtain ⟨unlinked, once⟩ := linkageRun_unlinked_of_reported oneLink split linking reported
  rw [inv.released_of_unlinked unlinked, increfs, once]

/-- A delivery linked by the receive path, updated by the peer, settled by the core, and then
reported settled by the peer. -/
def exampleEvents : List LinkageEvent :=
  [.rxDelivered false, .disposition false, .deliveryUpdate true, .disposition true]

theorem exampleEvents_references :
    (exampleEvents.filter (·.links)).length ≤ 1 ∧
    (linkageRun 0 1 .initial exampleEvents).increfs = (exampleEvents.filter (·.links)).length ∧
    ((linkageRun 0 1 .initial exampleEvents).pndContext = some 0 ↔
      (linkageRun 0 1 .initial exampleEvents).dlvContext = some 1) ∧
    given (linkageRun 0 1 .initial exampleEvents) + (linkageRun 0 1 .initial exampleEvents).decrefs ≤
      (linkageRun 0 1 .initial exampleEvents).increfs ∧
    ((exampleEvents.filter (·.links)).length = 0 →
      given (linkageRun 0 1 .initial exampleEvents) + (linkageRun 0 1 .initial exampleEvents).decrefs = 0) ∧
    ∀ pre e post, exampleEvents = pre ++ e :: post → e.links = true →
      (∃ f ∈ post, f.settles = true) →
      given (linkageRun 0 1 .initial exampleEvents) + (linkageRun 0 1 .initial exampleEvents).decrefs = 1 :=
  ⟨by decide, linkageRun_references 0 1 exampleEvents (by decide)⟩

end DispatchRouter.Settlement
