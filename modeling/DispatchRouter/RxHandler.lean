import DispatchRouter.RouterNode

/-! What `AMQP_rx_handler` hands to the router core: the user-id proxy check on every link that is
not link-routed, the tenant space of anonymous destinations, and how the inbound message
annotations reach the routing decision. -/

namespace DispatchRouter.RxHandler
open RouterCore Connection Message RouterNode

@[simp] theorem core_not_mem_linkDelivery (call : QdrCall) (settled : Bool) (dlv : Nat) :
    RxAction.core call ∉ linkDelivery settled dlv := by
  unfold linkDelivery
  split <;> simp

@[simp] theorem core_not_mem_rejectDelivery (call : QdrCall) : RxAction.core call ∉ rejectDelivery := by
  simp [rejectDelivery]

theorem userIdProxied_eq_false_iff (msg : QdMessage) (userId : List Char) :
    userIdProxied msg userId = false ↔
      msg.userId = none ∨ msg.userId = some [] ∨ msg.userId = some userId := by
  unfold userIdProxied
  cases msg.userId with
  | none => simp
  | some id => cases id <;> simp

@[simp] theorem stampPhase_space (addr : QdIterator) (phase : Int) :
    (stampPhase addr phase).space = addr.space := by
  unfold stampPhase
  split <;> rfl

@[simp] theorem stampPhase_text (addr : QdIterator) (phase : Int) :
    (stampPhase addr phase).text = addr.text := by
  unfold stampPhase
  split <;> rfl

theorem anonymousAddress_space {inMa : Option QdParsedMap} {msg : QdMessage} {space : List Char}
    (unresolved : inMa.bind (qdParseValueByKey · qdMaTo) = none) :
    ∀ addr, (anonymousAddress inMa msg (some space)).1 = some addr → addr.space = some space := by
  unfold anonymousAddress
  rw [unresolved]
  cases msg.propertiesTo <;> simp

theorem anonymousAddress_override {inMa : Option QdParsedMap} {msg : QdMessage}
    {space : Option (List Char)} {maTo : QdParsedField}
    (resolved : inMa.bind (qdParseValueByKey · qdMaTo) = some maTo) :
    ∀ addr, (anonymousAddress inMa msg space).1 = some addr → addr.text = maTo.raw ∧ addr.space = none := by
  unfold anonymousAddress
  rw [resolved]
  rintro _ ⟨⟩
  exact ⟨rfl, rfl⟩

section Attached
variable {router : QdRouter} {link : QdLink} {conn : QdConnection} {tenantSpace : Option (List Char)}
  {pnd : PnDelivery} {core : QdrCall → Option Nat} {msg : QdMessage} {rlink : QdrLinkView}

theorem core_mem_amqpRxHandler (received : pnd.message = some msg) (attached : link.rlink = some rlink)
    (notRouted : rlink.routed = false) {call : QdrCall}
    (mem : RxAction.core call ∈ amqpRxHandler router link conn tenantSpace pnd core) :
    (checkUser conn && userIdProxied msg conn.userId) = false ∧
      rxCoreCall router link rlink tenantSpace msg pnd.settled = some call := by
  simp only [amqpRxHandler, received, attached, notRouted, Bool.false_eq_true, if_false,
    List.mem_cons, reduceCtorEq, false_or] at mem
  split_ifs at mem with invalid proxied
  · simp at mem
  · simp at mem
  · refine ⟨Bool.eq_false_iff.2 proxied, ?_⟩
    split at mem
    · next made found =>
      rcases List.mem_cons.1 mem with same | rest
      · cases same
        exact found
      · cases returned : core made <;> simp [returned] at rest
    · simp at mem

theorem amqpRxHandler_of_routed (received : pnd.message = some msg) (attached : link.rlink = some rlink)
    (routed : rlink.routed = true) :
    RxAction.core (.deliverToRoutedLink msg pnd.settled) ∈
        amqpRxHandler router link conn tenantSpace pnd core ∧
      RxAction.reject ∉ amqpRxHandler router link conn tenantSpace pnd core := by
  simp only [amqpRxHandler, received, attached, routed, if_true]
  refine ⟨by simp, ?_⟩
  cases core (.deliverToRoutedLink msg pnd.settled) <;> simp [linkDelivery]
  split <;> simp

theorem amqpRxHandler_of_proxied (received : pnd.message = some msg)
    (attached : link.rlink = some rlink) (notRouted : rlink.routed = false)
    (proxied : (checkUser conn && userIdProxied msg conn.userId) = true) :
    amqpRxHandler router link conn tenantSpace pnd core = .advance :: rejectDelivery := by
  simp [amqpRxHandler, received, attached, notRouted, proxied]

theorem rxCoreCall_anonymous (anonymous : rlink.anonymous = true) {space : Option (List Char)}
    {settled settled' : Bool} {msg' : QdMessage} {ingress : Option (List Char)} {addr : QdIterator}
    {linkExclusions : Option Bitmask}
    (made : rxCoreCall router link rlink space msg settled =
      some (.deliverTo msg' ingress addr settled' linkExclusions)) :
    ∃ annotated resolved, (anonymousAddress msg.annotations annotated space).1 = some resolved ∧
      addr.text = resolved.text ∧ addr.space = resolved.space := by
  simp only [rxCoreCall, anonymous, if_true, Option.map_eq_some'] at made
  obtain ⟨resolved, mem, same⟩ := made
  injection same with _ _ addrEq
  exact ⟨_, resolved, mem, by rw [← addrEq, stampPhase_text]; rfl,
    by rw [← addrEq, stampPhase_space, QdIterator.resetView_space]⟩

end Attached

/-! ## The receive path's guarantees -/

/-- On a connection whose policy forbids user-id proxying, a delivery on a link that is not
link-routed reaches the router core only if its user-id is absent, blank or the connection's user;
any other is rejected and settled without the core. On a link-routed link every delivery is handed
to `qdr_link_deliver_to_routed_link`, whatever its user-id. -/
theorem amqpRxHandler_userId_checked (router : QdRouter) (link : QdLink) (conn : QdConnection)
    (tenantSpace : Option (List Char)) (pnd : PnDelivery) (core : QdrCall → Option Nat)
    (msg : QdMessage) (rlink : QdrLinkView) (settings : QdPolicySettings)
    (policy : conn.policySettings = some settings) (noProxy : settings.allowUserIdProxy = false)
    (received : pnd.message = some msg) (attached : link.rlink = some rlink) :
    (rlink.routed = false →
      (∀ call, RxAction.core call ∈ amqpRxHandler router link conn tenantSpace pnd core →
        msg.userId = none ∨ msg.userId = some [] ∨ msg.userId = some conn.userId) ∧
      (¬ (msg.userId = none ∨ msg.userId = some [] ∨ msg.userId = some conn.userId) →
        amqpRxHandler router link conn tenantSpace pnd core =
          [.advance, .flow, .reject, .settle, .free])) ∧
    (rlink.routed = true →
      RxAction.core (.deliverToRoutedLink msg pnd.settled) ∈
          amqpRxHandler router link conn tenantSpace pnd core ∧
        RxAction.reject ∉ amqpRxHandler router link conn tenantSpace pnd core) := by
  have checked : checkUser conn = true := by simp [checkUser, policy, noProxy]
  refine ⟨fun notRouted => ⟨fun call mem => ?_, fun forbidden => ?_⟩,
    amqpRxHandler_of_routed received attached⟩
  · have passed := (core_mem_amqpRxHandler received attached notRouted mem).1
    rw [checked, Bool.true_and] at passed
    exact (userIdProxied_eq_false_iff msg conn.userId).1 passed
  · have proxied : userIdProxied msg conn.userId = true := by
      by_contra passed
      exact forbidden ((userIdProxied_eq_false_iff msg conn.userId).1 (Bool.eq_false_iff.2 passed))
    exact amqpRxHandler_of_proxied received attached notRouted (by rw [checked, proxied]; rfl)

/-- This router, with an empty trace mask. -/
def exampleRouter : QdRouter := ⟨"Router.A".toList, fun _ => Bitmask.empty⟩

/-- Policy settings that forbid user-id proxying and set no limits. -/
def noProxySettings : QdPolicySettings :=
  ⟨0, 0, 0, true, true, false, none, none, none, none, ⟨0, 0, 0⟩⟩

/-- A connection authenticated as `alice` under those settings. -/
def aliceConnection : QdConnection := ⟨some noProxySettings, "alice".toList, 0, 0, 0⟩

/-- A message from `bob` to `queue`, valid at every depth, without message annotations. -/
def bobMessage : QdMessage :=
  ⟨fun _ => true, some "bob".toList, some "queue".toList, none, none, none, 0, none⟩

/-- The router link of a targeted link to `queue` that strips inbound annotations. -/
def targetedRlink : QdrLinkView := ⟨false, false, true, 0⟩

/-- A targeted link to `queue`. -/
def targetedLink : QdLink := ⟨some targetedRlink, some "queue".toList, none⟩

theorem targetedLink_userId_checked :
    aliceConnection.policySettings = some noProxySettings ∧
    noProxySettings.allowUserIdProxy = false ∧
    (⟨some bobMessage, false⟩ : PnDelivery).message = some bobMessage ∧
    targetedLink.rlink = some targetedRlink ∧
    (targetedRlink.routed = false →
      (∀ call, RxAction.core call ∈
          amqpRxHandler exampleRouter targetedLink aliceConnection none ⟨some bobMessage, false⟩
            (fun _ => some 0) →
        bobMessage.userId = none ∨ bobMessage.userId = some [] ∨
          bobMessage.userId = some aliceConnection.userId) ∧
      (¬ (bobMessage.userId = none ∨ bobMessage.userId = some [] ∨
          bobMessage.userId = some aliceConnection.userId) →
        amqpRxHandler exampleRouter targetedLink aliceConnection none ⟨some bobMessage, false⟩
            (fun _ => some 0) = [.advance, .flow, .reject, .settle, .free])) ∧
    (targetedRlink.routed = true →
      RxAction.core (.deliverToRoutedLink bobMessage false) ∈
          amqpRxHandler exampleRouter targetedLink aliceConnection none ⟨some bobMessage, false⟩
            (fun _ => some 0) ∧
        RxAction.reject ∉ amqpRxHandler exampleRouter targetedLink aliceConnection none
          ⟨some bobMessage, false⟩ (fun _ => some 0)) :=
  ⟨rfl, rfl, rfl, rfl,
    amqpRxHandler_userId_checked exampleRouter targetedLink aliceConnection none
      ⟨some bobMessage, false⟩ (fun _ => some 0) bobMessage targetedRlink noProxySettings
      rfl rfl rfl rfl⟩

/-- A link-routed link. -/
def routedLink : QdLink := ⟨some ⟨true, false, true, 0⟩, some "queue".toList, none⟩

/-- On a link-routed link the message from `bob` reaches the core on `alice`'s connection,
although the policy forbids proxying the user-id. -/
theorem routedLink_userId_unchecked :
    aliceConnection.policySettings = some noProxySettings ∧
    noProxySettings.allowUserIdProxy = false ∧
    ¬ (bobMessage.userId = none ∨ bobMessage.userId = some [] ∨
        bobMessage.userId = some aliceConnection.userId) ∧
    RxAction.core (.deliverToRoutedLink bobMessage false) ∈
      amqpRxHandler exampleRouter routedLink aliceConnection none ⟨some bobMessage, false⟩
        (fun _ => some 0) :=
  ⟨rfl, rfl, by simp [bobMessage, aliceConnection], List.mem_cons_of_mem _ (List.mem_cons_self _ _)⟩

/-- On an anonymous link of a tenant connection, every destination handed to the core carries the
tenant space unless the message's own annotations hold an `x-opt-qd.to`; an address taken from
that annotation is handed over as given, without the tenant space. -/
theorem amqpRxHandler_tenant_space (router : QdRouter) (link : QdLink) (conn : QdConnection)
    (space : List Char) (pnd : PnDelivery) (core : QdrCall → Option Nat) (msg : QdMessage)
    (rlink : QdrLinkView) (received : pnd.message = some msg) (attached : link.rlink = some rlink)
    (notRouted : rlink.routed = false) (anonymous : rlink.anonymous = true) :
    ∀ msg' ingress addr settled linkExclusions,
      RxAction.core (.deliverTo msg' ingress addr settled linkExclusions) ∈
        amqpRxHandler router link conn (some space) pnd core →
      ((∀ map, msg.annotations = some map → qdParseValueByKey map qdMaTo = none) →
        addr.space = some space) ∧
      (∀ map maTo, msg.annotations = some map → qdParseValueByKey map qdMaTo = some maTo →
        addr.text = maTo.raw ∧ addr.space = none) := by
  intro msg' ingress addr settled linkExclusions mem
  obtain ⟨annotated, resolved, found, text, spaced⟩ :=
    rxCoreCall_anonymous anonymous (core_mem_amqpRxHandler received attached notRouted mem).2
  refine ⟨fun noOverride => ?_, fun map maTo present override => ?_⟩
  · have unresolved : msg.annotations.bind (qdParseValueByKey · qdMaTo) = none := by
      cases given : msg.annotations <;> simp [noOverride, given]
    exact spaced.trans (anonymousAddress_space unresolved _ found)
  · have resolvedTo : msg.annotations.bind (qdParseValueByKey · qdMaTo) = some maTo := by
      simp [present, override]
    obtain ⟨sameText, noSpace⟩ := anonymousAddress_override resolvedTo _ found
    exact ⟨text.trans sameText, spaced.trans noSpace⟩

/-- An anonymous link that keeps inbound annotations. -/
def anonymousLink : QdLink := ⟨some ⟨false, true, false, 0⟩, none, none⟩

/-- A connection without policy settings. -/
def openConnection : QdConnection := ⟨none, "alice".toList, 0, 0, 0⟩

theorem anonymousLink_tenant_space :
    (⟨some bobMessage, false⟩ : PnDelivery).message = some bobMessage ∧
    anonymousLink.rlink = some ⟨false, true, false, 0⟩ ∧
    (⟨false, true, false, 0⟩ : QdrLinkView).routed = false ∧
    (⟨false, true, false, 0⟩ : QdrLinkView).anonymous = true ∧
    ∀ msg' ingress addr settled linkExclusions,
      RxAction.core (.deliverTo msg' ingress addr settled linkExclusions) ∈
        amqpRxHandler exampleRouter anonymousLink openConnection (some "tenant".toList)
          ⟨some bobMessage, false⟩ (fun _ => some 0) →
      ((∀ map, bobMessage.annotations = some map → qdParseValueByKey map qdMaTo = none) →
        addr.space = some "tenant".toList) ∧
      (∀ map maTo, bobMessage.annotations = some map → qdParseValueByKey map qdMaTo = some maTo →
        addr.text = maTo.raw ∧ addr.space = none) :=
  ⟨rfl, rfl, rfl, rfl,
    amqpRxHandler_tenant_space exampleRouter anonymousLink openConnection "tenant".toList
      ⟨some bobMessage, false⟩ (fun _ => some 0) bobMessage ⟨false, true, false, 0⟩ rfl rfl rfl rfl⟩

/-- The message from `bob` with an `x-opt-qd.to` annotation naming `elsewhere`. -/
def overrideMessage : QdMessage :=
  { bobMessage with annotations := some [(some qdMaTo, .scalar "elsewhere".toList 0)] }

/-- On an anonymous link of a tenant connection, a message carrying its own `x-opt-qd.to` is handed
to the core with a destination that has no tenant space. -/
theorem anonymousLink_override_unspaced :
    ∃ msg' ingress addr linkExclusions,
      RxAction.core (.deliverTo msg' ingress addr false linkExclusions) ∈
        amqpRxHandler exampleRouter anonymousLink openConnection (some "tenant".toList)
          ⟨some overrideMessage, false⟩ (fun _ => some 0) ∧
      addr.space = none :=
  ⟨_, _, _, _, List.mem_cons_of_mem _ (List.mem_cons_self _ _), rfl⟩

/-- An anonymous link that strips inbound annotations. -/
def strippedLink : QdLink := ⟨some ⟨false, true, true, 0⟩, none, none⟩

/-- On an anonymous link that strips inbound annotations, two messages that differ only in their
message annotations are handed to the core with different destinations. -/
theorem strippedLink_annotations_route :
    SameButAnnotations bobMessage overrideMessage ∧
    strippedLink.rlink.map (·.stripAnnotationsIn) = some true ∧
    (∃ msg' addr,
      RxAction.core (.deliverTo msg' none addr false none) ∈
        amqpRxHandler exampleRouter strippedLink openConnection none ⟨some bobMessage, false⟩
          (fun _ => some 0) ∧
      addr.text = "queue".toList) ∧
    (∃ msg' addr,
      RxAction.core (.deliverTo msg' none addr false none) ∈
        amqpRxHandler exampleRouter strippedLink openConnection none ⟨some overrideMessage, false⟩
          (fun _ => some 0) ∧
      addr.text = "elsewhere".toList) :=
  ⟨rfl, rfl, ⟨_, _, List.mem_cons_of_mem _ (List.mem_cons_self _ _), rfl⟩,
    ⟨_, _, List.mem_cons_of_mem _ (List.mem_cons_self _ _), rfl⟩⟩

end DispatchRouter.RxHandler
