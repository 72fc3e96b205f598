import DispatchRouter.RxHandler

/-! What `router_annotate_message` writes, for a message-annotations map whose keys are distinct:
the scan loop, early stop included, finds for each of its four keys the value the map binds to it,
and the outbound trace, to-override, phase and ingress annotations, the link exclusions and the
returned ingress follow from those four values alone. -/

namespace DispatchRouter.Annotations
open RouterCore Connection Message RouterNode RxHandler

/-- The keys of the entries of a map that have one. -/
def mapKeys (map : QdParsedMap) : List (List Char) := map.filterMap (·.1)

/-- The four slots of the scan, each with the key that fills it. -/
def slots : List ((FoundAnnotations → Option QdParsedField) × List Char) :=
  [(FoundAnnotations.trace, qdMaTrace), (FoundAnnotations.ingress, qdMaIngress),
    (FoundAnnotations.toValue, qdMaTo), (FoundAnnotations.phase, qdMaPhase)]

/-- No slot found so far has its key among the map's keys. -/
def Fresh (found : FoundAnnotations) (map : QdParsedMap) : Prop :=
  ∀ slot ∈ slots, (slot.1 found).isSome → slot.2 ∉ mapKeys map

theorem qdParseValueByKey_cons (key : Option (List Char)) (value : QdParsedField) (map : QdParsedMap)
    (wanted : List Char) :
    qdParseValueByKey ((key, value) :: map) wanted =
      if key = some wanted then some value else qdParseValueByKey map wanted := by
  unfold qdParseValueByKey
  split_ifs with same <;> simp [same]

/-- The slot update the scan makes on an entry with key `key`, as the loop body writes it. -/
def recordKey (found : FoundAnnotations) (key : List Char) (value : QdParsedField) : FoundAnnotations :=
  if key = qdMaTrace then { found with trace := some value }
  else if key = qdMaIngress then { found with ingress := some value }
  else if key = qdMaTo then { found with toValue := some value }
  else if key = qdMaPhase then { found with phase := some value }
  else found

theorem scanAnnotations_some (found : FoundAnnotations) (key : List Char) (value : QdParsedField)
    (map : QdParsedMap) :
    scanAnnotations found ((some key, value) :: map) =
      let found := recordKey found key value
      if found.trace.isSome && found.ingress.isSome && found.toValue.isSome && found.phase.isSome then found
      else scanAnnotations found map := rfl

theorem recordKey_slot (found : FoundAnnotations) (key : List Char) (value : QdParsedField) :
    ∀ slot ∈ slots, slot.1 (recordKey found key value) = if key = slot.2 then some value else slot.1 found := by
  simp only [slots, List.mem_cons, List.mem_singleton, List.not_mem_nil, or_false]
  rintro slot (rfl | rfl | rfl | rfl) <;> split_ifs with same
  all_goals first
    | (subst same; rfl)
    | (unfold recordKey; repeat' split
       all_goals first | rfl | contradiction)

theorem scanAnnotations_slot : ∀ (found : FoundAnnotations) (map : QdParsedMap),
    (mapKeys map).Nodup → Fresh found map →
    ∀ slot ∈ slots, slot.1 (scanAnnotations found map) = (slot.1 found).or (qdParseValueByKey map slot.2)
  | found, [], _, _, slot, _ => by simp [scanAnnotations, qdParseValueByKey]
  | found, (none, value) :: map, distinct, fresh, slot, mem => by
    rw [scanAnnotations, qdParseValueByKey_cons, if_neg (by simp)]
    exact scanAnnotations_slot found map distinct fresh slot mem
  | found, (some key, value) :: map, distinct, fresh, slot, mem => by
    simp only [mapKeys, List.filterMap_cons, List.nodup_cons] at distinct
    obtain ⟨unseen, distinct⟩ := distinct
    have recorded := recordKey_slot found key value
    have fresh' : Fresh (recordKey found key value) map := fun other otherMem present => by
      rw [recorded other otherMem] at present
      split_ifs at present with same
      · exact same ▸ unseen
      · exact fun later => fresh other otherMem present (List.mem_cons_of_mem key later)
    have scanned : slot.1 (scanAnnotations found ((some key, value) :: map)) =
        (slot.1 (recordKey found key value)).or (qdParseValueByKey map slot.2) := by
      rw [scanAnnotations_some]
      dsimp only
      split_ifs with complete
      · have present : (slot.1 (recordKey found key value)).isSome := by
          simp only [Bool.and_eq_true] at complete
          simp only [slots, List.mem_cons, List.mem_singleton, List.not_mem_nil, or_false] at mem
          rcases mem with rfl | rfl | rfl | rfl <;> simp only [complete]
        obtain ⟨recordedValue, found⟩ := Option.isSome_iff_exists.1 present
        rw [found]
        rfl
      · exact scanAnnotations_slot _ map distinct fresh' slot mem
    rw [scanned, recorded slot mem, qdParseValueByKey_cons]
    by_cases same : key = slot.2
    · have absent : slot.1 found = none := by
        by_contra present
        exact fresh slot mem (Option.ne_none_iff_isSome.1 present) (same ▸ List.mem_cons_self key _)
      simp [same, absent]
    · simp [same]

/-- The value the map binds to each of the four keys. -/
def lookupAnnotations (map : QdParsedMap) : FoundAnnotations :=
  ⟨qdParseValueByKey map qdMaTrace, qdParseValueByKey map qdMaIngress, qdParseValueByKey map qdMaTo,
    qdParseValueByKey map qdMaPhase⟩

theorem scanAnnotations_empty {map : QdParsedMap} (distinct : (mapKeys map).Nodup) :
    scanAnnotations .empty map = lookupAnnotations map := by
  have scanned := scanAnnotations_slot .empty map distinct (by simp [Fresh, slots, FoundAnnotations.empty])
  simp only [slots, List.mem_cons, List.mem_singleton, List.not_mem_nil, or_false, forall_eq_or_imp,
    forall_eq] at scanned
  generalize scanAnnotations .empty map = found at scanned
  cases found
  simp_all [lookupAnnotations, FoundAnnotations.empty]

/-- The items of an inbound trace that is a list. -/
def traceItems : Option QdParsedField → Option (List (List Char))
  | some (.list _ items) => some items
  | _ => none

/-- The inbound ingress `router_annotate_message` keeps: a scalar one. -/
def keptIngress : Option QdParsedField → Option (List Char)
  | some (.scalar raw _) => some raw
  | _ => none

theorem routerAnnotateMessage_lookup (router : QdRouter) {map : QdParsedMap} (msg : QdMessage)
    (distinct : (mapKeys map).Nodup) :
    routerAnnotateMessage router (some map) msg false =
      (keptIngress (qdParseValueByKey map qdMaIngress),
        (traceItems (qdParseValueByKey map qdMaTrace)).map router.tracemask,
        { msg with
          traceAnnotation := some ((traceItems (qdParseValueByKey map qdMaTrace)).getD [] ++ [router.nodeId])
          toOverrideAnnotation := ((qdParseValueByKey map qdMaTo).map (·.raw)).or msg.toOverrideAnnotation
          phaseAnnotation := ((qdParseValueByKey map qdMaPhase).map (·.asInt)).getD msg.phaseAnnotation
          ingressAnnotation := some ((keptIngress (qdParseValueByKey map qdMaIngress)).getD router.nodeId) }) := by
  rw [routerAnnotateMessage]
  dsimp only
  rw [scanAnnotations_empty distinct, lookupAnnotations]
  generalize qdParseValueByKey map qdMaTrace = trace
  generalize qdParseValueByKey map qdMaIngress = ingress
  generalize qdParseValueByKey map qdMaTo = toValue
  generalize qdParseValueByKey map qdMaPhase = phase
  cases toValue <;> cases phase <;> dsimp only <;>
    rcases trace with _ | ⟨_, _⟩ | ⟨_, _⟩ | _ <;> dsimp only <;>
    rcases ingress with _ | ⟨_, _⟩ | ⟨_, _⟩ | _ <;> rfl

/-- For every inbound map with distinct keys and no stripping, `router_annotate_message` appends
this router's id to the inbound trace when it is a list (else starts a trace of the id alone), sets
the link exclusions to the trace mask of that list (else none), keeps the to-override and the phase
when present, keeps a scalar ingress and returns it (else stamps this router's id and returns
none), and changes nothing else of the message; with stripping, or with no map, it acts as on an
empty map. -/
theorem routerAnnotateMessage_map (router : QdRouter) (map : QdParsedMap) (msg : QdMessage)
    (distinct : (mapKeys map).Nodup) :
    let result := routerAnnotateMessage router (some map) msg false
    let out := result.2.2
    out.traceAnnotation =
        some ((traceItems (qdParseValueByKey map qdMaTrace)).getD [] ++ [router.nodeId]) ∧
      result.2.1 = (traceItems (qdParseValueByKey map qdMaTrace)).map router.tracemask ∧
      out.toOverrideAnnotation =
        ((qdParseValueByKey map qdMaTo).map (·.raw)).or msg.toOverrideAnnotation ∧
      out.phaseAnnotation =
        ((qdParseValueByKey map qdMaPhase).map (·.asInt)).getD msg.phaseAnnotation ∧
      out.ingressAnnotation =
        some ((keptIngress (qdParseValueByKey map qdMaIngress)).getD router.nodeId) ∧
      result.1 = keptIngress (qdParseValueByKey map qdMaIngress) ∧
      { out with
          traceAnnotation := msg.traceAnnotation
          toOverrideAnnotation := msg.toOverrideAnnotation
          phaseAnnotation := msg.phaseAnnotation
          ingressAnnotation := msg.ingressAnnotation } = msg ∧
      (∀ inMa, routerAnnotateMessage router inMa msg true = routerAnnotateMessage router (some []) msg false) ∧
      ∀ strip, routerAnnotateMessage router none msg strip = routerAnnotateMessage router (some []) msg false := by
  dsimp only
  rw [routerAnnotateMessage_lookup router msg distinct]
  exact ⟨rfl, rfl, rfl, rfl, rfl, rfl, rfl, fun inMa => by cases inMa <;> rfl,
    fun strip => by cases strip <;> rfl⟩

/-- A map carrying a trace through router `B` and a scalar ingress `B`, then an unrelated key. -/
def tracedMap : QdParsedMap :=
  [(some qdMaTrace, .list "[B]".toList ["B".toList]), (some qdMaIngress, .scalar "B".toList 0),
    (some "x-opt-other".toList, .scalar "1".toList 1)]

theorem tracedMap_annotated :
    (mapKeys tracedMap).Nodup ∧
    let result := routerAnnotateMessage exampleRouter (some tracedMap) bobMessage false
    let out := result.2.2
    out.traceAnnotation =
        some ((traceItems (qdParseValueByKey tracedMap qdMaTrace)).getD [] ++ [exampleRouter.nodeId]) ∧
      result.2.1 = (traceItems (qdParseValueByKey tracedMap qdMaTrace)).map exampleRouter.tracemask ∧
      out.toOverrideAnnotation =
        ((qdParseValueByKey tracedMap qdMaTo).map (·.raw)).or bobMessage.toOverrideAnnotation ∧
      out.phaseAnnotation =
        ((qdParseValueByKey tracedMap qdMaPhase).map (·.asInt)).getD bobMessage.phaseAnnotation ∧
      out.ingressAnnotation =
        some ((keptIngress (qdParseValueByKey tracedMap qdMaIngress)).getD exampleRouter.nodeId) ∧
      result.1 = keptIngress (qdParseValueByKey tracedMap qdMaIngress) ∧
      { out with
          traceAnnotation := bobMessage.traceAnnotation
          toOverrideAnnotation := bobMessage.toOverrideAnnotation
          phaseAnnotation := bobMessage.phaseAnnotation
          ingressAnnotation := bobMessage.ingressAnnotation } = bobMessage ∧
      (∀ inMa, routerAnnotateMessage exampleRouter inMa bobMessage true =
        routerAnnotateMessage exampleRouter (some []) bobMessage false) ∧
      ∀ strip, routerAnnotateMessage exampleRouter none bobMessage strip =
        routerAnnotateMessage exampleRouter (some []) bobMessage false :=
  have distinct : (mapKeys tracedMap).Nodup := by decide
  ⟨distinct, routerAnnotateMessage_map exampleRouter tracedMap bobMessage distinct⟩

/-- The trace through `B` goes out as `B, Router.A` and the ingress `B` is kept. -/
example : QdMessage.traceAnnotation (routerAnnotateMessage exampleRouter (some tracedMap) bobMessage false).2.2 =
      some ["B".toList, "Router.A".toList] ∧
    (routerAnnotateMessage exampleRouter (some tracedMap) bobMessage false).1 = some "B".toList :=
  ⟨by decide, by decide⟩

end DispatchRouter.Annotations