import DispatchRouter.Policy

/-! The parse trees of policy.c: the hostname-pattern tree that vhost names are matched against,
kept by `qd_policy_host_pattern_add` and `qd_policy_host_pattern_remove`, and the link-name trees
`qd_policy_parse_tree` builds from a CSV spec. parse_tree.c is not under src/: the hostname tree is
a map from a pattern's normal form (`normalize`, a parameter) to its payload. -/

namespace DispatchRouter.PolicyTrees
open Connection Policy

/-! ## Hostname patterns -/

section Hostname
variable (normalize : List Char → List Char)

/-- `qd_parse_tree_add_pattern_str`: binds the pattern's normal form to the payload, and returns the
payload it replaces. -/
def qdParseTreeAddPatternStr (tree : List Char → Option (List Char)) (pattern payload : List Char) :
    Option (List Char) × (List Char → Option (List Char)) :=
  (tree (normalize pattern), Function.update tree (normalize pattern) (some payload))

/-- `qd_parse_tree_remove_pattern_str`: unbinds the pattern's normal form, and returns its payload. -/
def qdParseTreeRemovePatternStr (tree : List Char → Option (List Char)) (pattern : List Char) :
    Option (List Char) × (List Char → Option (List Char)) :=
  (tree (normalize pattern), Function.update tree (normalize pattern) none)

/-- The `qd_policy_t` state the hostname-pattern functions use: `hostname_tree`, and the warnings
logged to `log_source`. -/
structure HostnameState where
  hostnameTree : List Char → Option (List Char)
  warnings : List (List Char)

/-- The warning of `qd_policy_host_pattern_add` when the pattern's normal form is taken. -/
def replaceWarning (hostPattern oldp : List Char) : List Char :=
  "vhost hostname pattern '".toList ++ hostPattern ++
    "' failed to replace optimized pattern '".toList ++ oldp ++ "'".toList

/-- The warning of `qd_policy_host_pattern_remove` when the pattern is not in the tree. -/
def removeWarning (hostPattern : List Char) : List Char :=
  "vhost hostname pattern '".toList ++ hostPattern ++ "' for removal not found".toList

/-- `qd_policy_host_pattern_add`: whether the pattern was added, and the state after; `none` when
`assert (recovered)` fails. A pattern whose normal form is taken replaces the old one, which is then
added back over it. -/
def qdPolicyHostPatternAdd (policy : HostnameState) (hostPattern : List Char) :
    Option (Bool × HostnameState) :=
  let (oldp, tree) := qdParseTreeAddPatternStr normalize policy.hostnameTree hostPattern hostPattern
  match oldp with
  | none => some (true, { policy with hostnameTree := tree })
  | some oldp =>
    let (recovered, tree) := qdParseTreeAddPatternStr normalize tree oldp oldp
    if recovered.isSome then some (false, ⟨tree, policy.warnings ++ [replaceWarning hostPattern oldp]⟩)
    else none

/-- `qd_policy_host_pattern_remove`. -/
def qdPolicyHostPatternRemove (policy : HostnameState) (hostPattern : List Char) : HostnameState :=
  let (oldp, tree) := qdParseTreeRemovePatternStr normalize policy.hostnameTree hostPattern
  ⟨tree, if oldp.isSome then policy.warnings else policy.warnings ++ [removeWarning hostPattern]⟩

/-- A call of the hostname-pattern interface. -/
inductive HostPatternCall where
  | add (hostPattern : List Char)
  | remove (hostPattern : List Char)
  deriving DecidableEq, Repr

/-- The calls in turn; `none` once an assertion fails. -/
def hostPatternRun (policy : HostnameState) : List HostPatternCall → Option HostnameState
  | [] => some policy
  | .add hostPattern :: calls =>
    (qdPolicyHostPatternAdd normalize policy hostPattern).bind fun result => hostPatternRun result.2 calls
  | .remove hostPattern :: calls => hostPatternRun (qdPolicyHostPatternRemove normalize policy hostPattern) calls

/-- Every payload of the tree is a pattern whose normal form is its key. -/
def SelfKeyed (tree : List Char → Option (List Char)) : Prop :=
  ∀ key pattern, tree key = some pattern → normalize pattern = key

variable {normalize}

theorem SelfKeyed.bind {tree : List Char → Option (List Char)} (inv : SelfKeyed normalize tree)
    (pattern : List Char) : SelfKeyed normalize (Function.update tree (normalize pattern) (some pattern)) := by
  intro key payload bound
  rw [Function.update_apply] at bound
  split_ifs at bound with same
  · cases bound
    exact same.symm
  · exact inv key payload bound

theorem SelfKeyed.unbind {tree : List Char → Option (List Char)} (inv : SelfKeyed normalize tree)
    (key : List Char) : SelfKeyed normalize (Function.update tree key none) := by
  intro key' payload bound
  rw [Function.update_apply] at bound
  split_ifs at bound
  exact inv key' payload bound

/-- The hostname tree as the abstract index it is kept as: a map that holds each pattern under its
own normal form. -/
def HostnameIndex (normalize : List Char → List Char) :=
  {tree : List Char → Option (List Char) // SelfKeyed normalize tree}

/-- What adding a hostname pattern is for: the pattern is added, under its normal form, exactly
when no pattern with that normal form is there; otherwise nothing changes. -/
def HostnameIndex.add (index : HostnameIndex normalize) (pattern : List Char) :
    Bool × HostnameIndex normalize :=
  if (index.1 (normalize pattern)).isNone then
    (true, ⟨Function.update index.1 (normalize pattern) (some pattern), index.2.bind pattern⟩)
  else (false, index)

/-- Removing a hostname pattern unbinds its normal form. -/
def HostnameIndex.remove (index : HostnameIndex normalize) (pattern : List Char) : HostnameIndex normalize :=
  ⟨Function.update index.1 (normalize pattern) none, index.2.unbind _⟩

/-- The index after the calls in turn. -/
def HostnameIndex.run (index : HostnameIndex normalize) : List HostPatternCall → HostnameIndex normalize
  | [] => index
  | .add hostPattern :: calls => (index.add hostPattern).2.run calls
  | .remove hostPattern :: calls => (index.remove hostPattern).run calls

/-- On a self-keyed tree `qd_policy_host_pattern_add` passes its assertion and does what adding to
the index does: when the normal form is taken, the old pattern added back restores the tree. -/
theorem qdPolicyHostPatternAdd_refines (index : HostnameIndex normalize) (warnings : List (List Char))
    (hostPattern : List Char) :
    ∃ warnings', qdPolicyHostPatternAdd normalize ⟨index.1, warnings⟩ hostPattern =
      some ((index.add hostPattern).1, ⟨(index.add hostPattern).2.1, warnings'⟩) := by
  obtain ⟨tree, inv⟩ := index
  simp only [qdPolicyHostPatternAdd, qdParseTreeAddPatternStr, HostnameIndex.add]
  cases bound : tree (normalize hostPattern) with
  | none => exact ⟨warnings, rfl⟩
  | some oldp =>
    have same : normalize oldp = normalize hostPattern := inv _ _ bound
    refine ⟨warnings ++ [replaceWarning hostPattern oldp], ?_⟩
    simp only [Option.isNone_some, Bool.false_eq_true, ite_false]
    rw [same, Function.update_same, Function.update_idem, ← bound, Function.update_eq_self]
    rfl

/-- Every run of adds and removes from a self-keyed tree passes its assertions and keeps the tree
the index's run computes. -/
theorem hostPatternRun_refines (index : HostnameIndex normalize) (warnings : List (List Char))
    (calls : List HostPatternCall) :
    ∃ warnings', hostPatternRun normalize ⟨index.1, warnings⟩ calls = some ⟨(index.run calls).1, warnings'⟩ := by
  induction calls generalizing index warnings with
  | nil => exact ⟨warnings, rfl⟩
  | cons call calls ih =>
    cases call with
    | add hostPattern =>
      obtain ⟨warnings', added⟩ := qdPolicyHostPatternAdd_refines index warnings hostPattern
      simp only [hostPatternRun, added, Option.some_bind, HostnameIndex.run]
      exact ih _ warnings'
    | remove hostPattern => exact ih (index.remove hostPattern) _

/-- From a tree in which every payload is a pattern keyed by its own normal form,
`qd_policy_host_pattern_add` passes its assertion and returns true exactly when the pattern's normal
form is free, binding it to the pattern; when it returns false the tree is as before. Every run of
adds and removes passes its assertions and keeps the invariant. -/
theorem qdPolicyHostPatternAdd_keyed (policy : HostnameState) (inv : SelfKeyed normalize policy.hostnameTree) :
    (∀ hostPattern, ∃ added policy', qdPolicyHostPatternAdd normalize policy hostPattern = some (added, policy') ∧
      (added = true ↔ policy.hostnameTree (normalize hostPattern) = none) ∧
      policy'.hostnameTree =
        if added then Function.update policy.hostnameTree (normalize hostPattern) (some hostPattern)
        else policy.hostnameTree) ∧
    ∀ calls, ∃ final, hostPatternRun normalize policy calls = some final ∧
      SelfKeyed normalize final.hostnameTree := by
  let index : HostnameIndex normalize := ⟨policy.hostnameTree, inv⟩
  refine ⟨fun hostPattern => ?_, fun calls => ?_⟩
  · obtain ⟨warnings', added⟩ := qdPolicyHostPatternAdd_refines index policy.warnings hostPattern
    refine ⟨_, _, added, ?_, ?_⟩ <;>
      simp only [index, HostnameIndex.add] <;> cases policy.hostnameTree (normalize hostPattern) <;> simp
  · obtain ⟨warnings', run⟩ := hostPatternRun_refines index policy.warnings calls
    exact ⟨_, run, (index.run calls).2⟩

end Hostname

/-- The hostname patterns of a vhost `*.example.com`, matched as written. -/
def exampleHostnames : HostnameState :=
  ⟨Function.update (fun _ => none) "*.example.com".toList (some "*.example.com".toList), []⟩

theorem exampleHostnames_keyed :
    SelfKeyed id exampleHostnames.hostnameTree ∧
    (∀ hostPattern, ∃ added policy', qdPolicyHostPatternAdd id exampleHostnames hostPattern = some (added, policy') ∧
      (added = true ↔ exampleHostnames.hostnameTree (id hostPattern) = none) ∧
      policy'.hostnameTree =
        if added then Function.update exampleHostnames.hostnameTree (id hostPattern) (some hostPattern)
        else exampleHostnames.hostnameTree) ∧
    ∀ calls, ∃ final, hostPatternRun id exampleHostnames calls = some final ∧
      SelfKeyed id final.hostnameTree :=
  have inv : SelfKeyed id exampleHostnames.hostnameTree := by
    intro key pattern bound
    simp only [exampleHostnames, Function.update_apply] at bound
    split_ifs at bound with same
    cases bound
    exact same.symm
  ⟨inv, qdPolicyHostPatternAdd_keyed exampleHostnames inv⟩

/-! ## Link-name parse trees -/

/-- `strcspn (s, QPALN_COMMA_SEP)` on a C string. -/
def strcspnComma (s : List Char) : Nat := (s.takeWhile (· != ',')).length

/-- The `while (pch < dupend)` loop of `qd_policy_parse_tree` from offset `pch` of `dup`: the
patterns it adds to the tree, in order. -/
def parseTreeLoop (dup : List Char) (pch : Nat) : List (List Char) :=
  if pch < dup.length then
    let vsize := strcspnComma (dup.drop pch)
    (if vsize > 0 then [(dup.drop pch).take vsize] else []) ++ parseTreeLoop dup (pch + vsize + 1)
  else []
termination_by dup.length - pch

/-- `qd_policy_parse_tree`: no tree for a null or empty spec, else a tree of the spec's patterns. -/
def qdPolicyParseTree (configSpec : Option (List Char)) : Option QdParseTree :=
  match configSpec with
  | none => none
  | some spec => if spec.length = 0 then none else some ⟨parseTreeLoop spec 0⟩

@[simp] theorem strtokTokens_nil : strtokTokens [] = [] := rfl

theorem strtokTokens_of_not_mem {tok : List Char} (noComma : ',' ∉ tok) :
    strtokTokens tok = if tok = [] then [] else [tok] := by
  have single : tok.splitOn ',' = [tok] :=
    List.splitOnP_eq_single (· == ',') tok fun c mem same => noComma (beq_iff_eq.1 same ▸ mem)
  rw [strtokTokens, single]
  by_cases empty : tok = [] <;> simp [empty]

theorem strtokTokens_append_comma {tok : List Char} (noComma : ',' ∉ tok) (rest : List Char) :
    strtokTokens (tok ++ ',' :: rest) = (if tok = [] then [] else [tok]) ++ strtokTokens rest := by
  have first : (tok ++ ',' :: rest).splitOn ',' = tok :: rest.splitOn ',' :=
    List.splitOnP_first (· == ',') tok (fun c mem same => noComma (beq_iff_eq.1 same ▸ mem)) ','
      (beq_self_eq_true _) rest
  rw [strtokTokens, first, List.filter_cons]
  by_cases empty : tok = [] <;> simp [empty, strtokTokens]

theorem strtokTokens_step (rest : List Char) :
    strtokTokens rest =
      (if strcspnComma rest > 0 then [rest.take (strcspnComma rest)] else []) ++
        strtokTokens (rest.drop (strcspnComma rest + 1)) := by
  have noComma : ',' ∉ rest.takeWhile (· != ',') := fun mem => by
    simpa using List.mem_takeWhile_imp mem
  have stop : ∀ c rest', rest.dropWhile (· != ',') = c :: rest' → c = ',' := fun c rest' after => by
    simpa [after] using List.head_dropWhile_not (· != ',') rest (by simp [after])
  have split := List.takeWhile_append_dropWhile (· != ',') rest
  rw [strcspnComma]
  generalize rest.takeWhile (· != ',') = tok at noComma split ⊢
  generalize rest.dropWhile (· != ',') = after at stop split
  subst split
  cases after with
  | nil =>
    rw [List.append_nil, strtokTokens_of_not_mem noComma, List.drop_eq_nil_of_le (Nat.le_succ _)]
    by_cases empty : tok = [] <;> simp [empty, List.length_pos]
  | cons c rest' =>
    obtain rfl := stop c rest' rfl
    rw [strtokTokens_append_comma noComma]
    by_cases empty : tok = [] <;> simp [empty, List.length_pos]

/-- The loop from offset `pch` adds exactly the tokens `strtok_r` visits in the rest of the spec. -/
theorem parseTreeLoop_eq (dup : List Char) (pch : Nat) :
    parseTreeLoop dup pch = strtokTokens (dup.drop pch) := by
  induction pch using parseTreeLoop.induct dup with
  | case1 pch inside vsize ih =>
    unfold vsize at ih
    rw [parseTreeLoop, if_pos inside]
    dsimp only
    rw [ih, strtokTokens_step (dup.drop pch), List.drop_drop, Nat.add_assoc]
  | case2 pch outside =>
    rw [parseTreeLoop, if_neg outside, List.drop_eq_nil_of_le (Nat.le_of_not_lt outside)]
    rfl

/-- `qd_policy_parse_tree` builds no tree exactly for a null or empty spec; otherwise its loop ends,
having added the spec's tokens in the order `strtok_r (",")` visits them. -/
theorem qdPolicyParseTree_strtok (configSpec : Option (List Char)) :
    qdPolicyParseTree configSpec =
      match configSpec with
      | some (c :: cs) => some ⟨strtokTokens (c :: cs)⟩
      | _ => none := by
  rcases configSpec with _ | _ | ⟨c, cs⟩
  · rfl
  · rfl
  · rw [qdPolicyParseTree, if_neg (List.cons_ne_nil c cs ∘ List.length_eq_zero.1), parseTreeLoop_eq,
      List.drop_zero]

/-- Leading, repeated and trailing commas add nothing. -/
example : qdPolicyParseTree (some ",a,,b,".toList) = some ⟨["a".toList, "b".toList]⟩ := by
  rw [qdPolicyParseTree, if_neg (by decide), parseTreeLoop_eq]
  decide

end DispatchRouter.PolicyTrees
