import DispatchRouter.ForwarderSteps

/-! What `qdr_forward_multicast_CT` does, as a whole: it copies the message to the local consumer
links, then to one link of the traffic class per neighbor bit of the link set it builds from
`rnodes`, then posts it to every in-process subscription. Its three loops are proved equal to
plain runs of copies and posts, and the link set to the ascending list of the bits the set-building
loop admits; copies leave everything that loop and the origin lookup read unchanged. What the call
queues on each link and posts to the general-work list follows from one lemma per operation. -/

namespace DispatchRouter.Multicast
open RouterCore Forwarder ForwarderSteps

/-- Copies of the message to each link of `links` in turn. -/
def copyAll (inDelivery : Option Nat) (msg : Nat) : List Nat → QdrCore → QdrCore
  | [], core => core
  | link :: links, core => copyAll inDelivery msg links (copyToLink core inDelivery link msg)

/-- Posts of the message to each subscription of `subs` in turn. -/
def postAll (inDelivery : Option Nat) (msg : Nat) : List QdrSubscription → QdrCore → QdrCore
  | [], core => core
  | sub :: subs, core =>
    postAll inDelivery msg subs (qdrForwardOnMessageCT core sub (inLink core inDelivery) msg)

theorem copyAll_append (inDelivery : Option Nat) (msg : Nat) (first second : List Nat) (core : QdrCore) :
    copyAll inDelivery msg (first ++ second) core =
      copyAll inDelivery msg second (copyAll inDelivery msg first core) := by
  induction first generalizing core with
  | nil => rfl
  | cons link first ih => exact ih _

/-- The `(link, delivery)` pairs of copies to `links` in turn from a core of `next` deliveries: the
`i`-th copy queues delivery `next + i` on the `i`-th link. -/
def copiesTo (next : Nat) (links : List Nat) : List (Nat × Nat) :=
  links.zip (List.range' next links.length)

section Effects
variable (inDelivery : Option Nat) (msg : Nat)

theorem copyAll_length : ∀ (links : List Nat) (core : QdrCore),
    (copyAll inDelivery msg links core).deliveries.length = core.deliveries.length + links.length
  | [], _ => rfl
  | link :: links, core => by
    rw [copyAll, copyAll_length links, copyToLink_length, List.length_cons]
    omega

theorem appended_copyAll : ∀ (links : List Nat) (core : QdrCore),
    Appended core (copyAll inDelivery msg links core) (copiesTo core.deliveries.length links) []
  | [], core => appended_refl core
  | link :: links, core => by
    have rest := appended_copyAll links (copyToLink core inDelivery link msg)
    rw [copyToLink_length] at rest
    exact (appended_copyToLink core inDelivery link msg).trans rest

theorem linkOf_copyAll_of_lt : ∀ (links : List Nat) (core : QdrCore) {dlv : Nat},
    dlv < core.deliveries.length → linkOf (copyAll inDelivery msg links core) dlv = linkOf core dlv
  | [], _, _, _ => rfl
  | link :: links, core, dlv, old => by
    rw [copyAll, linkOf_copyAll_of_lt links _ (by simp; omega), linkOf_copyToLink, if_pos old]

theorem linkOf_copyAll : ∀ (links : List Nat) (core : QdrCore) (i : Nat),
    linkOf (copyAll inDelivery msg links core) (core.deliveries.length + i) = links[i]?
  | [], core, i => by simp [copyAll, linkOf]
  | link :: links, core, 0 => by
    rw [copyAll, linkOf_copyAll_of_lt inDelivery msg links _ (by simp), linkOf_copyToLink]
    simp
  | link :: links, core, i + 1 => by
    rw [List.getElem?_cons_succ, ← linkOf_copyAll links (copyToLink core inDelivery link msg) i,
      copyToLink_length, show core.deliveries.length + (i + 1) = core.deliveries.length + 1 + i by omega]
    rfl

theorem appended_postAll : ∀ (subs : List QdrSubscription) (core : QdrCore),
    ∃ posted, Appended core (postAll inDelivery msg subs core) [] posted ∧
      (postAll inDelivery msg subs core).deliveries = core.deliveries ∧
      posted.map (fun work => (handedTo work, work.msg)) = subs.map (·, msg)
  | [], core => ⟨[], appended_refl core, rfl, rfl⟩
  | sub :: subs, core => by
    obtain ⟨work, handed, carried, posting⟩ :=
      appended_qdrForwardOnMessageCT core sub (inLink core inDelivery) msg
    obtain ⟨posted, appends, kept, mapped⟩ := appended_postAll subs _
    exact ⟨work :: posted, posting.trans appends, kept, by simp [handed, carried, mapped]⟩

end Effects

/-- The traffic-class peer link of the next hop towards router `rnode`: the peer link of its
`next_hop`, or of the router itself when it is a neighbor. -/
def nextHopLink (core : QdrCore) (control : Bool) (rnode : Nat) : Option Nat :=
  let nextNode := core.nodes ((core.nodes rnode).nextHop.getD rnode)
  if control then nextNode.peerControlLink else nextNode.peerDataLink

theorem peerLink_eq_nextHopLink (core : QdrCore) (control : Bool) (rnode : Nat) :
    (if control then (core.nodes ((core.nodes rnode).nextHop.getD rnode)).peerControlLink
      else (core.nodes ((core.nodes rnode).nextHop.getD rnode)).peerDataLink) =
      nextHopLink core control rnode := rfl

/-- `control_links_by_mask_bit` or `data_links_by_mask_bit`, by traffic class. -/
def linkByMaskBit (core : QdrCore) (control : Bool) (bit : Nat) : Option Nat :=
  if control then core.controlLinksByMaskBit bit else core.dataLinksByMaskBit bit

/-- Router bit `r` of `rnodes` puts `bit` in the link set: it names a router that accepts the
origin, and `bit` is the mask bit of the connection of the traffic-class link of its next hop. -/
def AdmitsBit (core : QdrCore) (control : Bool) (origin r bit : Nat) : Prop :=
  ∃ rnode, core.routersByMaskBit r = some rnode ∧ ∃ dest, nextHopLink core control rnode = some dest ∧
    (core.nodes rnode).validOrigins.value origin = true ∧ (core.conns (core.links dest).conn).maskBit = bit

/-- The links the drain loop copies to, for the ascending bits `bits` of the link set: the link of
the traffic class on every bit outside the exclusions that has one. -/
def remoteLinks (core : QdrCore) (control : Bool) (linkExclusion : Option Bitmask) (bits : List Nat) :
    List Nat :=
  (bits.filter fun bit => !(linkExclusion.map (·.value bit)).getD false).filterMap
    (linkByMaskBit core control)

/-! ## What a copy leaves unchanged -/

/-- What the origin lookup, the set-building loop and the drain loop read of the core. -/
structure RoutingView where
  routersByMaskBit : Nat → Option Nat
  nodes : Nat → QdrNode
  controlLinksByMaskBit : Nat → Option Nat
  dataLinksByMaskBit : Nat → Option Nat
  addrHash : List Char → Option QdrAddress
  linkConn : Nat → Nat
  connMaskBit : Nat → Nat
  origin : Nat → Option (List Char)

/-- The routing view of a core. -/
def routingView (core : QdrCore) : RoutingView where
  routersByMaskBit := core.routersByMaskBit
  nodes := core.nodes
  controlLinksByMaskBit := core.controlLinksByMaskBit
  dataLinksByMaskBit := core.dataLinksByMaskBit
  addrHash := core.addrHash
  linkConn link := (core.links link).conn
  connMaskBit conn := (core.conns conn).maskBit
  origin dlv := (core.deliveries[dlv]?).bind QdrDelivery.origin

@[simp] theorem linkBack_origin (dlv : Nat) (record : QdrDelivery) :
    (linkBack dlv record).origin = record.origin := by
  unfold linkBack; split <;> rfl

theorem bind_origin_eq_join (record : Option QdrDelivery) :
    record.bind QdrDelivery.origin = (record.map QdrDelivery.origin).join := by
  cases record <;> rfl

theorem copyToLink_conns (core : QdrCore) (inDelivery : Option Nat) (link msg : Nat) :
    (copyToLink core inDelivery link msg).conns = Function.update core.conns (core.links link).conn
      { core.conns (core.links link).conn with
        linksWithDeliveries := qdrAddLinkRef (core.conns (core.links link).conn).linksWithDeliveries link } :=
  rfl

theorem routingView_copyToLink (core : QdrCore) (inDelivery : Option Nat) (link msg : Nat) :
    routingView (copyToLink core inDelivery link msg) = routingView core := by
  have origins : ∀ dlv : Nat, ((copyToLink core inDelivery link msg).deliveries[dlv]?).bind QdrDelivery.origin =
      (core.deliveries[dlv]?).bind QdrDelivery.origin := by
    intro dlv
    rw [bind_origin_eq_join, bind_origin_eq_join,
      copyToLink_field QdrDelivery.origin (fun _ => linkBack_origin _ _)]
    split_ifs with old new
    · rfl
    · rw [List.getElem?_eq_none (by omega)]
      rfl
    · rw [List.getElem?_eq_none (by omega)]
      rfl
  simp only [routingView, origins, RoutingView.mk.injEq, and_true]
  refine ⟨rfl, rfl, rfl, rfl, rfl, funext fun other => ?_, funext fun conn => ?_⟩
  · simp only [copyToLink_links, Function.update_apply]
    split
    next same => rw [same]
    next => rfl
  · simp only [copyToLink_conns, Function.update_apply]
    split
    next same => rw [same]
    next => rfl

theorem routingView_copyAll (inDelivery : Option Nat) (msg : Nat) :
    ∀ (links : List Nat) (core : QdrCore), routingView (copyAll inDelivery msg links core) = routingView core
  | [], _ => rfl
  | link :: links, core =>
    (routingView_copyAll inDelivery msg links _).trans (routingView_copyToLink core inDelivery link msg)

section Congruence
variable {core core' : QdrCore} (same : routingView core = routingView core')
include same

theorem multicastOrigin_congr (inDelivery : Option Nat) (bypass : Bool) :
    multicastOrigin core inDelivery bypass = multicastOrigin core' inDelivery bypass := by
  have ingress : inDelivery.bind (fun d => (core.deliveries[d]?).bind (·.origin)) =
      inDelivery.bind (fun d => (core'.deliveries[d]?).bind (·.origin)) :=
    congrArg _ (congrArg RoutingView.origin same)
  have hashes : core.addrHash = core'.addrHash := congrArg RoutingView.addrHash same
  unfold multicastOrigin
  rw [ingress, hashes]

theorem linkByMaskBit_congr (control : Bool) : linkByMaskBit core control = linkByMaskBit core' control := by
  have controls : core.controlLinksByMaskBit = core'.controlLinksByMaskBit :=
    congrArg RoutingView.controlLinksByMaskBit same
  have datas : core.dataLinksByMaskBit = core'.dataLinksByMaskBit :=
    congrArg RoutingView.dataLinksByMaskBit same
  unfold linkByMaskBit
  rw [controls, datas]

theorem remoteLinks_congr (control : Bool) (linkExclusion : Option Bitmask) :
    remoteLinks core control linkExclusion = remoteLinks core' control linkExclusion := by
  unfold remoteLinks
  rw [linkByMaskBit_congr same]

theorem admitsBit_congr (control : Bool) (origin r bit : Nat) :
    AdmitsBit core control origin r bit ↔ AdmitsBit core' control origin r bit := by
  have routers : core.routersByMaskBit = core'.routersByMaskBit := congrArg RoutingView.routersByMaskBit same
  have nodes : core.nodes = core'.nodes := congrArg RoutingView.nodes same
  have conns : ∀ link, (core.links link).conn = (core'.links link).conn :=
    congrFun (congrArg RoutingView.linkConn same)
  have maskBits : ∀ conn, (core.conns conn).maskBit = (core'.conns conn).maskBit :=
    congrFun (congrArg RoutingView.connMaskBit same)
  simp only [AdmitsBit, nextHopLink, routers, nodes, conns, maskBits]

end Congruence

/-! ## The three loops -/

section Loops
variable {inDelivery : Option Nat} {msg : Nat}

theorem multicastLocal_eq :
    ∀ (refs : List QdrLinkRef) (core : QdrCore) (addr : QdrAddress) (fanout : Nat),
      (multicastLocal inDelivery msg refs (core, addr, fanout)).1 =
          copyAll inDelivery msg (refs.map (·.link)) core ∧
        (multicastLocal inDelivery msg refs (core, addr, fanout)).2.2 = fanout + refs.length
  | [], _, _, _ => ⟨rfl, rfl⟩
  | ref :: refs, core, _, fanout => by
    obtain ⟨copied, counted⟩ :=
      multicastLocal_eq refs (copyToLink core inDelivery ref.link msg) _ (fanout + 1)
    exact ⟨copied, counted.trans (by simp only [List.length_cons]; omega)⟩

theorem multicastInprocess_eq :
    ∀ (subs : List QdrSubscription) (core : QdrCore) (addr : QdrAddress) (fanout : Nat),
      (multicastInprocess inDelivery msg subs (core, addr, fanout)).1 = postAll inDelivery msg subs core ∧
        (multicastInprocess inDelivery msg subs (core, addr, fanout)).2.2 = fanout + subs.length
  | [], _, _, _ => ⟨rfl, rfl⟩
  | sub :: subs, core, _, fanout => by
    obtain ⟨posted, counted⟩ := multicastInprocess_eq subs
      (qdrForwardOnMessageCT core sub (inLink core inDelivery) msg) _ (fanout + 1)
    exact ⟨posted, counted.trans (by simp only [List.length_cons]; omega)⟩

theorem mem_multicastLinkSet (core : QdrCore) (control : Bool) (origin : Nat) :
    ∀ (rbits : List Nat) (linkSet : Bitmask) (bit : Nat),
      bit ∈ (multicastLinkSet core control origin rbits linkSet).bits ↔
        bit ∈ linkSet.bits ∨ ∃ r ∈ rbits, AdmitsBit core control origin r bit
  | [], _, _ => by simp [multicastLinkSet]
  | r :: rbits, linkSet, bit => by
    simp only [List.mem_cons, or_and_right, exists_or, exists_eq_left]
    unfold multicastLinkSet
    cases routed : core.routersByMaskBit r with
    | none =>
      have absent : ¬ AdmitsBit core control origin r bit := by simp [AdmitsBit, routed]
      simp only [mem_multicastLinkSet core control origin rbits, absent, false_or]
    | some rnode =>
      simp only [mem_multicastLinkSet core control origin rbits]
      cases toward : nextHopLink core control rnode with
      | none =>
        have absent : ¬ AdmitsBit core control origin r bit := by simp [AdmitsBit, routed, toward]
        simp only [nextHopLink] at toward
        simp only [toward, absent, false_or]
      | some dest =>
        have admits : AdmitsBit core control origin r bit ↔ (core.nodes rnode).validOrigins.value origin = true ∧
            (core.conns (core.links dest).conn).maskBit = bit := by
          simp [AdmitsBit, routed, toward]
        simp only [nextHopLink] at toward
        simp only [toward, admits]
        split_ifs with valid
        · simp only [Bitmask.setBit, mem_insertBit, valid, true_and]
          constructor
          · rintro ((same | old) | later)
            exacts [.inr (.inl same.symm), .inl old, .inr (.inr later)]
          · rintro (old | same | later)
            exacts [.inl (.inr old), .inl (.inl same.symm), .inr later]
        · simp [valid]

@[simp] theorem linkByMaskBit_copyToLink (core : QdrCore) (control : Bool) (link : Nat) :
    linkByMaskBit (copyToLink core inDelivery link msg) control = linkByMaskBit core control := rfl

@[simp] theorem remoteLinks_copyToLink (core : QdrCore) (link : Nat) :
    remoteLinks (copyToLink core inDelivery link msg) = remoteLinks core := rfl

theorem remoteLinks_cons (core : QdrCore) (control : Bool) (linkExclusion : Option Bitmask) (bit : Nat)
    (bits : List Nat) :
    remoteLinks core control linkExclusion (bit :: bits) =
      if (linkExclusion.map (·.value bit)).getD false then remoteLinks core control linkExclusion bits
      else (linkByMaskBit core control bit).toList ++ remoteLinks core control linkExclusion bits := by
  unfold remoteLinks
  by_cases excluded : (linkExclusion.map (·.value bit)).getD false = true
  · simp [excluded]
  · cases found : linkByMaskBit core control bit <;> simp [excluded, found]

theorem multicastRemote_eq (control : Bool) (linkExclusion : Option Bitmask) :
    ∀ (fuel : Nat) (linkSet : Bitmask) (core : QdrCore) (addr : QdrAddress) (fanout : Nat),
      linkSet.bits.length ≤ fuel →
      (multicastRemote inDelivery msg control linkExclusion fuel linkSet (core, addr, fanout)).1 =
          copyAll inDelivery msg (remoteLinks core control linkExclusion linkSet.bits) core ∧
        (multicastRemote inDelivery msg control linkExclusion fuel linkSet (core, addr, fanout)).2.2 =
          fanout + (remoteLinks core control linkExclusion linkSet.bits).length
  | fuel, ⟨[], _⟩, core, addr, fanout, _ => by
    cases fuel <;> exact ⟨rfl, rfl⟩
  | 0, ⟨_ :: _, _⟩, _, _, _, enough => by simp at enough
  | fuel + 1, ⟨bit :: bits, ascending⟩, core, addr, fanout, enough => by
    have cleared : (Bitmask.clearBit ⟨bit :: bits, ascending⟩ bit).bits = bits :=
      Bitmask.clearBit_firstSet rfl
    have enough : (Bitmask.clearBit ⟨bit :: bits, ascending⟩ bit).bits.length ≤ fuel := by
      simp only [cleared]; simpa using enough
    have table : (if control then core.controlLinksByMaskBit bit else core.dataLinksByMaskBit bit) =
        linkByMaskBit core control bit := rfl
    simp only [multicastRemote, Bitmask.firstSet, List.head?_cons, remoteLinks_cons, table]
    cases found : linkByMaskBit core control bit with
    | none =>
      obtain ⟨copied, counted⟩ := multicastRemote_eq control linkExclusion fuel _ core addr fanout enough
      rw [cleared] at copied counted
      simpa only [Option.toList_none, List.nil_append, ite_self] using ⟨copied, counted⟩
    | some dest =>
      dsimp only
      by_cases excluded : (linkExclusion.map (·.value bit)).getD false = true
      · rw [if_pos excluded, if_pos excluded]
        obtain ⟨copied, counted⟩ := multicastRemote_eq control linkExclusion fuel _ core addr fanout enough
        rw [cleared] at copied counted
        exact ⟨copied, counted⟩
      · rw [if_neg excluded, if_neg excluded]
        obtain ⟨copied, counted⟩ :=
          multicastRemote_eq control linkExclusion fuel _ (copyToLink core inDelivery dest msg) _
            (fanout + 1) enough
        rw [cleared, remoteLinks_copyToLink] at copied counted
        refine ⟨copied, counted.trans ?_⟩
        simp only [Option.toList_some, List.singleton_append, List.length_cons]
        omega

theorem multicastRemotes_eq (core : QdrCore) (control bypass : Bool) (linkExclusion : Option Bitmask)
    (rnodes : Bitmask) (state : QdrCore × QdrAddress × Nat) (view : routingView state.1 = routingView core) :
    ∃ peerBits : List Nat, peerBits.Sorted (· < ·) ∧
      (∀ bit, bit ∈ peerBits ↔ ∃ origin, multicastOrigin core inDelivery bypass = some origin ∧
        ∃ r ∈ rnodes.bits, AdmitsBit core control origin r bit) ∧
      (multicastRemotes inDelivery msg control bypass linkExclusion rnodes state).1 =
        copyAll inDelivery msg (remoteLinks core control linkExclusion peerBits) state.1 ∧
      (multicastRemotes inDelivery msg control bypass linkExclusion rnodes state).2.2 =
        state.2.2 + (remoteLinks core control linkExclusion peerBits).length := by
  obtain ⟨current, addr, fanout⟩ := state
  unfold multicastRemotes
  rw [multicastOrigin_congr view]
  cases found : multicastOrigin core inDelivery bypass with
  | none => exact ⟨[], List.sorted_nil, by simp, rfl, rfl⟩
  | some origin =>
    dsimp only
    let linkSet := multicastLinkSet current control origin rnodes.bits Bitmask.empty
    obtain ⟨copied, counted⟩ := multicastRemote_eq control linkExclusion linkSet.bits.length linkSet
      current addr fanout le_rfl
    rw [remoteLinks_congr view] at copied counted
    refine ⟨linkSet.bits, linkSet.ascending, fun bit => ?_, copied, counted⟩
    simp only [linkSet, mem_multicastLinkSet, admitsBit_congr view, Option.some.injEq, exists_eq_left']
    simp [Bitmask.empty]

end Loops

/-- The links `qdr_forward_multicast_CT` copies to, in order: those of the `rlinks` nodes unless
the address is local and in-process consumers are included, then the traffic-class link of every
bit of `peerBits` outside the exclusions that has one. -/
def multicastLinks (core : QdrCore) (addr : QdrAddress) (excludeInprocess control : Bool)
    (linkExclusion : Option Bitmask) (peerBits : List Nat) : List Nat :=
  (if !addr.isLocal || excludeInprocess then addr.rlinks.map (·.link) else []) ++
    remoteLinks core control linkExclusion peerBits

/-- The subscriptions `qdr_forward_multicast_CT` posts to: all of them unless excluded. -/
def multicastSubscriptions (addr : QdrAddress) (excludeInprocess : Bool) : List QdrSubscription :=
  if excludeInprocess then [] else addr.subscriptions

/-- `qdr_forward_multicast_CT` leaves the core as copies to `multicastLinks` and then posts to
`multicastSubscriptions` leave it, for the ascending link set of the mask bits the routers of
`rnodes` admit for the message's origin; the fanout counts the copies and posts. -/
theorem qdrForwardMulticastCT_eq_postAll (core : QdrCore) (addr : QdrAddress) (msg : Nat)
    (inDelivery : Option Nat) (excludeInprocess control : Bool) (linkExclusion : Option Bitmask) :
    ∃ peerBits : List Nat, peerBits.Sorted (· < ·) ∧
      (∀ bit, bit ∈ peerBits ↔ ∃ origin,
        multicastOrigin core inDelivery ((addr.forwarder.map (·.bypassValidOrigins)).getD false) =
          some origin ∧ ∃ r ∈ addr.rnodes.bits, AdmitsBit core control origin r bit) ∧
      (qdrForwardMulticastCT core addr msg inDelivery excludeInprocess control linkExclusion).1 =
        postAll inDelivery msg (multicastSubscriptions addr excludeInprocess)
          (copyAll inDelivery msg (multicastLinks core addr excludeInprocess control linkExclusion peerBits)
            core) ∧
      (qdrForwardMulticastCT core addr msg inDelivery excludeInprocess control linkExclusion).2.2 =
        (multicastLinks core addr excludeInprocess control linkExclusion peerBits).length +
          (multicastSubscriptions addr excludeInprocess).length := by
  let locally := if !addr.isLocal || excludeInprocess then
    multicastLocal inDelivery msg addr.rlinks (core, addr, 0) else (core, addr, 0)
  have copiedLocally : locally.1 = copyAll inDelivery msg
        (if !addr.isLocal || excludeInprocess then addr.rlinks.map (·.link) else []) core ∧
      locally.2.2 = (if !addr.isLocal || excludeInprocess then addr.rlinks.map (·.link) else []).length := by
    simp only [locally]
    split
    · simpa using multicastLocal_eq addr.rlinks core addr 0
    · exact ⟨rfl, rfl⟩
  obtain ⟨peerBits, ascending, admitted, copied, counted⟩ := multicastRemotes_eq core control
    ((addr.forwarder.map (·.bypassValidOrigins)).getD false) linkExclusion addr.rnodes locally
    (copiedLocally.1 ▸ routingView_copyAll inDelivery msg _ core)
  refine ⟨peerBits, ascending, admitted, ?_⟩
  rw [copiedLocally.1, ← copyAll_append] at copied
  rw [copiedLocally.2] at counted
  have unfolded : qdrForwardMulticastCT core addr msg inDelivery excludeInprocess control linkExclusion =
      if excludeInprocess then
        multicastRemotes inDelivery msg control ((addr.forwarder.map (·.bypassValidOrigins)).getD false)
          linkExclusion addr.rnodes locally
      else multicastInprocess inDelivery msg addr.subscriptions
        (multicastRemotes inDelivery msg control ((addr.forwarder.map (·.bypassValidOrigins)).getD false)
          linkExclusion addr.rnodes locally) := rfl
  rw [unfolded, multicastLinks, multicastSubscriptions, List.length_append]
  generalize multicastRemotes inDelivery msg control _ linkExclusion addr.rnodes locally = remote
    at copied counted
  obtain ⟨current, addr', fanout⟩ := remote
  dsimp only at copied counted
  cases excludeInprocess
  · obtain ⟨posted, postCounted⟩ := multicastInprocess_eq addr.subscriptions current addr' fanout
    exact ⟨posted.trans (congrArg _ copied), postCounted.trans (by rw [counted]; rfl)⟩
  · exact ⟨copied, counted⟩

end DispatchRouter.Multicast
