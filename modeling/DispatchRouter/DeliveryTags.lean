import DispatchRouter.ForwarderSteps

/-! Delivery tags and queue order over a run of forwarding calls. Forwarding only appends: the
deliveries it creates get consecutive tags from `next_tag` and are queued on their own link after
everything queued before. `Extends` states this in closed form; the tag and queue properties of
`qdr_forward_new_delivery_CT` and `qdr_forward_deliver_CT` follow from it at the end of a run. -/

namespace DispatchRouter.DeliveryTags
open RouterCore Forwarder ForwarderSteps

/-- `after` is `before` with the deliveries created since: the earlier ones keep their link and
tag, the new ones carry consecutive tags from `before.nextTag` (modulo 2^64), and each link's
queue is its old queue followed by its new deliveries in creation order. -/
structure Extends (before after : QdrCore) : Prop where
  grows : before.deliveries.length ≤ after.deliveries.length
  kept : ∀ dlv < before.deliveries.length,
    linkOf after dlv = linkOf before dlv ∧ tagOf after dlv = tagOf before dlv
  tagged : ∀ dlv, before.deliveries.length ≤ dlv → dlv < after.deliveries.length →
    tagOf after dlv = some ((before.nextTag + (dlv - before.deliveries.length)) % 2 ^ 64)
  nextTag : after.nextTag =
    (before.nextTag + (after.deliveries.length - before.deliveries.length)) % 2 ^ 64
  queued : ∀ link, (after.links link).undelivered = (before.links link).undelivered ++
    (List.range' before.deliveries.length (after.deliveries.length - before.deliveries.length)).filter
      (fun dlv => linkOf after dlv == some link)

theorem extends_refl (core : QdrCore) (inRange : core.nextTag < 2 ^ 64) : Extends core core where
  grows := le_rfl
  kept _ _ := ⟨rfl, rfl⟩
  tagged _ below above := absurd above (by omega)
  nextTag := by rw [Nat.sub_self, Nat.add_zero, Nat.mod_eq_of_lt inRange]
  queued _ := by simp

theorem extends_copy {before after : QdrCore} (extended : Extends before after)
    (inDelivery : Option Nat) (link msg : Nat) :
    Extends before (copyToLink after inDelivery link msg) where
  grows := by simp only [copyToLink_length]; have := extended.grows; omega
  kept dlv old := by
    have within : dlv < after.deliveries.length := by have := extended.grows; omega
    simp only [linkOf_copyToLink, tagOf_copyToLink, if_pos within]
    exact extended.kept dlv old
  tagged dlv below above := by
    simp only [copyToLink_length] at above
    rw [tagOf_copyToLink]
    split_ifs with old last
    · exact extended.tagged dlv below old
    · subst last
      rw [extended.nextTag]
    · omega
  nextTag := by
    have grown := extended.grows
    rw [copyToLink_nextTag, extended.nextTag, Nat.mod_add_mod, copyToLink_length]
    congr 1
    omega
  queued other := by
    have grown := extended.grows
    have last : before.deliveries.length + 1 * (after.deliveries.length - before.deliveries.length) =
        after.deliveries.length := by omega
    rw [copyToLink_length, show after.deliveries.length + 1 - before.deliveries.length =
      after.deliveries.length - before.deliveries.length + 1 by omega, List.range'_concat,
      List.filter_append, ← List.append_assoc]
    have earlier : (List.range' before.deliveries.length
        (after.deliveries.length - before.deliveries.length)).filter
          (fun dlv => linkOf (copyToLink after inDelivery link msg) dlv == some other) =
        (List.range' before.deliveries.length
          (after.deliveries.length - before.deliveries.length)).filter
          (fun dlv => linkOf after dlv == some other) := by
      refine List.filter_congr fun dlv mem => ?_
      rw [List.mem_range'_1] at mem
      rw [linkOf_copyToLink, if_pos (by omega)]
    rw [earlier, ← extended.queued other, copyToLink_links, last]
    by_cases same : link = other
    · subst same
      simp [linkOf_copyToLink]
    · simp [Function.update_noteq (Ne.symm same), linkOf_copyToLink, same]

theorem Extends.of_same {before after after' : QdrCore} (extended : Extends before after)
    (length : after'.deliveries.length = after.deliveries.length)
    (links : ∀ dlv, linkOf after' dlv = linkOf after dlv)
    (tags : ∀ dlv, tagOf after' dlv = tagOf after dlv)
    (queues : after'.links = after.links) (nextTag : after'.nextTag = after.nextTag) :
    Extends before after' where
  grows := length ▸ extended.grows
  kept dlv old := by rw [links, tags]; exact extended.kept dlv old
  tagged dlv below above := by rw [tags]; exact extended.tagged dlv below (length ▸ above)
  nextTag := by rw [nextTag, length]; exact extended.nextTag
  queued link := by rw [queues, length, extended.queued link]; simp only [links]

theorem extends_closed (before : QdrCore) (inDelivery : Option Nat) (msg : Nat) :
    ForwardClosed (fun core _ => Extends before core) inDelivery msg where
  copy _ link _ extended := extends_copy extended inDelivery link msg
  post _ _ _ _ extended := extended.of_same rfl (fun _ => rfl) (fun _ => rfl) rfl rfl
  accept core dlv _ _ extended := extended.of_same (acceptDelivery_length core dlv)
    (linkOf_acceptDelivery core dlv) (tagOf_acceptDelivery core dlv) rfl rfl

theorem qdrForwardRun_extends {before after : QdrCore} {calls : List ForwardCall}
    (inRange : before.nextTag < 2 ^ 64) (run : qdrForwardRun before calls = some after) :
    Extends before after :=
  qdrForwardRun_closed (extends_closed before) calls (extends_refl before inRange) run

/-! ## Tags and queues at the end of a run -/

/-- The list is strictly increasing in tag, and every entry is an allocated delivery. -/
def AscendingTags (core : QdrCore) (ids : List Nat) : Prop :=
  (∀ dlv ∈ ids, dlv < core.deliveries.length) ∧
    ids.Pairwise (fun a b => ∀ ta tb, tagOf core a = some ta → tagOf core b = some tb → ta < tb)

theorem tagOf_some {core : QdrCore} {dlv : Nat} (allocated : dlv < core.deliveries.length) :
    ∃ tag, tagOf core dlv = some tag :=
  ⟨core.deliveries[dlv].tag, by simp [tagOf, List.getElem?_eq_getElem allocated]⟩

section Run
variable {before after : QdrCore}

theorem Extends.tagOf_new (extended : Extends before after)
    (budget : after.deliveries.length - before.deliveries.length < 2 ^ 64 - before.nextTag)
    {dlv : Nat} (created : before.deliveries.length ≤ dlv) (allocated : dlv < after.deliveries.length) :
    tagOf after dlv = some (before.nextTag + (dlv - before.deliveries.length)) := by
  rw [extended.tagged dlv created allocated, Nat.mod_eq_of_lt (by omega)]

theorem Extends.tagOf_old (extended : Extends before after)
    (below : ∀ dlv tag, tagOf before dlv = some tag → tag < before.nextTag)
    {dlv : Nat} (old : dlv < before.deliveries.length) :
    ∃ tag, tagOf after dlv = some tag ∧ tag < before.nextTag := by
  obtain ⟨tag, found⟩ := tagOf_some old
  exact ⟨tag, (extended.kept dlv old).2.trans found, below dlv tag found⟩

theorem Extends.tags_nodup (extended : Extends before after)
    (below : ∀ dlv tag, tagOf before dlv = some tag → tag < before.nextTag)
    (distinct : (before.deliveries.map (·.tag)).Nodup)
    (budget : after.deliveries.length - before.deliveries.length < 2 ^ 64 - before.nextTag) :
    (after.deliveries.map (·.tag)).Nodup := by
  rw [List.nodup_iff_getElem?_ne_getElem?] at distinct ⊢
  intro i j ordered allocated
  rw [List.length_map] at allocated
  simp only [List.getElem?_map]
  change tagOf after i ≠ tagOf after j
  by_cases newI : before.deliveries.length ≤ i
  · rw [extended.tagOf_new budget newI (by omega), extended.tagOf_new budget (by omega) allocated]
    simp only [ne_eq, Option.some.injEq]
    omega
  · obtain ⟨tagI, foundI, lowI⟩ := extended.tagOf_old below (by omega : i < before.deliveries.length)
    rw [foundI]
    by_cases newJ : before.deliveries.length ≤ j
    · rw [extended.tagOf_new budget newJ allocated]
      simp only [ne_eq, Option.some.injEq]
      omega
    · have old := distinct i j ordered (by simpa using newJ)
      simp only [List.getElem?_map] at old
      change tagOf before i ≠ tagOf before j at old
      rwa [← (extended.kept i (by omega)).2, ← (extended.kept j (by omega)).2, foundI] at old

theorem Extends.count_created (extended : Extends before after)
    (valid : ∀ link, ∀ dlv ∈ (before.links link).undelivered, dlv < before.deliveries.length)
    {dlv : Nat} (created : before.deliveries.length ≤ dlv) (allocated : dlv < after.deliveries.length)
    (link : Nat) :
    (after.links link).undelivered.count dlv = if linkOf after dlv = some link then 1 else 0 := by
  rw [extended.queued link, List.count_append,
    List.count_eq_zero_of_not_mem fun mem => absurd (valid link dlv mem) (by omega), Nat.zero_add]
  split_ifs with own
  · rw [List.count_filter (by simpa using own)]
    exact List.count_eq_one_of_mem (List.nodup_range' _ _) (List.mem_range'_1.2 ⟨created, by omega⟩)
  · exact List.count_eq_zero_of_not_mem fun mem => own (by simpa using (List.mem_filter.1 mem).2)

theorem Extends.ascendingTags (extended : Extends before after)
    (below : ∀ dlv tag, tagOf before dlv = some tag → tag < before.nextTag)
    (budget : after.deliveries.length - before.deliveries.length < 2 ^ 64 - before.nextTag)
    {link : Nat} (ascending : AscendingTags before (before.links link).undelivered) :
    AscendingTags after (after.links link).undelivered := by
  obtain ⟨valid, ordered⟩ := ascending
  have created : ∀ dlv ∈ (List.range' before.deliveries.length
      (after.deliveries.length - before.deliveries.length)).filter
        (fun dlv => linkOf after dlv == some link),
      before.deliveries.length ≤ dlv ∧ dlv < after.deliveries.length := fun dlv mem => by
    have := List.mem_range'_1.1 (List.mem_filter.1 mem).1
    omega
  rw [extended.queued link]
  refine ⟨fun dlv mem => ?_, List.pairwise_append.2 ⟨?_, ?_, ?_⟩⟩
  · rcases List.mem_append.1 mem with old | new
    · exact lt_of_lt_of_le (valid dlv old) extended.grows
    · exact (created dlv new).2
  · refine ordered.imp_of_mem fun {a b} memA memB less ta tb foundA foundB => less ta tb ?_ ?_
    exacts [(extended.kept a (valid a memA)).2 ▸ foundA, (extended.kept b (valid b memB)).2 ▸ foundB]
  · refine ((List.pairwise_lt_range' _ _).filter _).imp_of_mem
      fun {a b} memA memB less ta tb foundA foundB => ?_
    rw [extended.tagOf_new budget (created a memA).1 (created a memA).2, Option.some.injEq] at foundA
    rw [extended.tagOf_new budget (created b memB).1 (created b memB).2, Option.some.injEq] at foundB
    have := (created a memA).1
    omega
  · intro a memA b memB ta tb foundA foundB
    obtain ⟨tag, foundOld, low⟩ := extended.tagOf_old below (valid a memA)
    rw [extended.tagOf_new budget (created b memB).1 (created b memB).2, Option.some.injEq] at foundB
    rw [foundOld, Option.some.injEq] at foundA
    omega

end Run

/-- From a core whose tags are below `next_tag` and whose queues ascend in tag, a run of
forwarding calls creating fewer than `2^64 - next_tag` deliveries queues each created delivery
exactly once, on its own link, and keeps every queue ascending; it leaves all tags distinct when
the earlier deliveries' tags were. -/
theorem qdrForwardRun_tags_queues (core core' : QdrCore) (calls : List ForwardCall)
    (below : ∀ dlv tag, tagOf core dlv = some tag → tag < core.nextTag)
    (ascending : ∀ link, AscendingTags core (core.links link).undelivered)
    (run : qdrForwardRun core calls = some core')
    (budget : core'.deliveries.length - core.deliveries.length < 2 ^ 64 - core.nextTag) :
    ((core.deliveries.map (·.tag)).Nodup → (core'.deliveries.map (·.tag)).Nodup) ∧
    (∀ dlv, core.deliveries.length ≤ dlv → dlv < core'.deliveries.length → ∀ link,
      (core'.links link).undelivered.count dlv = if linkOf core' dlv = some link then 1 else 0) ∧
    ∀ link, AscendingTags core' (core'.links link).undelivered := by
  have extended := qdrForwardRun_extends (by omega) run
  exact ⟨fun distinct => extended.tags_nodup below distinct budget,
    fun _ created allocated link =>
      extended.count_created (fun link => (ascending link).1) created allocated link,
    fun link => extended.ascendingTags below budget (ascending link)⟩

/-- The example delivery forwarded once to its two consumer links. -/
def exampleCalls : List ForwardCall :=
  [{ addr := exampleAddress, msg := 7, inDelivery := some 0, excludeInprocess := false,
     control := false, linkExclusion := none }]

theorem exampleCalls_tags_queues :
    (∀ dlv tag, tagOf exampleCore dlv = some tag → tag < exampleCore.nextTag) ∧
    (∀ link, AscendingTags exampleCore (exampleCore.links link).undelivered) ∧
    ∃ core', qdrForwardRun exampleCore exampleCalls = some core' ∧
      core'.deliveries.length - exampleCore.deliveries.length < 2 ^ 64 - exampleCore.nextTag ∧
      ((exampleCore.deliveries.map (·.tag)).Nodup → (core'.deliveries.map (·.tag)).Nodup) ∧
      (∀ dlv, exampleCore.deliveries.length ≤ dlv → dlv < core'.deliveries.length → ∀ link,
        (core'.links link).undelivered.count dlv = if linkOf core' dlv = some link then 1 else 0) ∧
      ∀ link, AscendingTags core' (core'.links link).undelivered := by
  have below : ∀ dlv tag, tagOf exampleCore dlv = some tag → tag < exampleCore.nextTag := by
    intro dlv tag found
    rcases dlv with _ | dlv <;> simp_all [tagOf, exampleCore]
  have ascending : ∀ link, AscendingTags exampleCore (exampleCore.links link).undelivered :=
    fun _ => ⟨by simp [exampleCore], by simp [exampleCore]⟩
  have budget : ((qdrForwardRun exampleCore exampleCalls).getD exampleCore).deliveries.length -
      exampleCore.deliveries.length < 2 ^ 64 - exampleCore.nextTag := by decide
  exact ⟨below, ascending, _, rfl, budget,
    qdrForwardRun_tags_queues exampleCore _ exampleCalls below ascending rfl budget⟩

/-- Two deliveries that already share tag 0, with `next_tag` 1. -/
def sharedTagCore : QdrCore :=
  { exampleCore with
      deliveries := [⟨0, none, 7, none, 0, false, 0⟩, ⟨0, none, 8, none, 0, false, 0⟩] }

/-- The empty run from a core whose tags are below `next_tag` but not distinct ends with tags
that are not pairwise distinct. -/
theorem sharedTagCore_tags_repeat :
    (∀ dlv tag, tagOf sharedTagCore dlv = some tag → tag < sharedTagCore.nextTag) ∧
    (∀ link, AscendingTags sharedTagCore (sharedTagCore.links link).undelivered) ∧
    qdrForwardRun sharedTagCore [] = some sharedTagCore ∧
    sharedTagCore.deliveries.length - sharedTagCore.deliveries.length < 2 ^ 64 - sharedTagCore.nextTag ∧
    ¬ (sharedTagCore.deliveries.map (·.tag)).Nodup := by
  refine ⟨fun dlv tag found => ?_, fun _ => ⟨by simp [sharedTagCore, exampleCore],
    by simp [sharedTagCore, exampleCore]⟩, rfl, by decide, by simp [sharedTagCore]⟩
  rcases dlv with _ | _ | dlv <;> simp_all [tagOf, sharedTagCore, exampleCore]

end DispatchRouter.DeliveryTags
