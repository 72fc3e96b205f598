import DispatchRouter.Policy

/-! The CSV link-name matcher `_qd_policy_approve_link_name` against the matching rule of the
policy specification: a token `*` matches any name, a token `q*` every name with prefix `q`, and
any other token only the name itself. The code compares with `strncmp` bounded by the length of
the proposed name, so a token also matches every proposed name that is a prefix of it.

The user-name substitution `_qd_policy_link_user_name_subst` writes, in three bounded `strncpy`
segments, exactly what one `strncpy` of the substituted name into the buffer writes: a C string
when the substituted name is shorter than the buffer, and no NUL at all otherwise. -/

namespace DispatchRouter.PolicyLinkName
open Policy

/-- The specified match of one token against a name. -/
def tokenMatches (tok name : List Char) : Bool :=
  tok == ['*'] || (tok.getLast? == some '*' && tok.dropLast.isPrefixOf name) || tok == name

/-- With no user name to substitute, the allowed list `abc` admits the proposed name `ab`, which
none of its tokens matches. -/
theorem qdPolicyApproveLinkNameCsv_token_prefix :
    qdPolicyApproveLinkNameCsv [] "abc".toList "ab".toList = some true ∧
    qdPolicyLinkUserNameSubst [] "ab".toList qpalnUserbufsize = none ∧
    (strtokTokens "abc".toList).all (fun tok => !tokenMatches tok "ab".toList) = true := by
  decide

/-! ## The substituted name -/

theorem strstr_cons (c : Char) (rest needle : List Char) :
    strstr (c :: rest) needle =
      if needle.isPrefixOf (c :: rest) then some 0 else (strstr rest needle).map (· + 1) := rfl

theorem strstr_nil (needle : List Char) :
    strstr [] needle = if needle.isPrefixOf [] then some 0 else none := rfl

theorem strstr_occurs_at {hay needle : List Char} {offset : Nat} (found : strstr hay needle = some offset) :
    needle <+: hay.drop offset := by
  induction hay generalizing offset with
  | nil =>
    rw [strstr_nil] at found
    split_ifs at found with matched
    cases found
    exact List.isPrefixOf_iff_prefix.1 matched
  | cons c rest ih =>
    rw [strstr_cons] at found
    split_ifs at found with matched
    · cases found
      exact List.isPrefixOf_iff_prefix.1 matched
    · obtain ⟨inner, located, rfl⟩ := Option.map_eq_some'.1 found
      exact ih located

theorem strstr_eq_none_iff (hay needle : List Char) : strstr hay needle = none ↔ ¬ needle <:+: hay := by
  induction hay with
  | nil =>
    rw [strstr_nil]
    split_ifs with matched
    · simpa using (List.isPrefixOf_iff_prefix.1 matched).isInfix
    · simp only [true_iff]
      exact fun occurs => matched (List.isPrefixOf_iff_prefix.2 (by simpa using occurs))
  | cons c rest ih =>
    rw [strstr_cons]
    split_ifs with matched
    · simpa using (List.isPrefixOf_iff_prefix.1 matched).isInfix
    · simp only [Option.map_eq_none', ih, List.infix_cons_iff, not_or]
      exact ⟨fun absent => ⟨fun pre => matched (List.isPrefixOf_iff_prefix.2 pre), absent⟩, And.right⟩

/-- The proposed name with `uname`, found at `offset`, replaced by `${user}`. -/
def substUser (proposed uname : List Char) (offset : Nat) : List Char :=
  proposed.take offset ++ "${user}".toList ++ proposed.drop (offset + uname.length)

theorem strncpy_append (a b : List Char) (n : Nat) :
    strncpy (a ++ b) n = a.take n ++ strncpy b (n - a.length) := by
  simp only [strncpy, List.take_append_eq_append_take, List.length_append, List.append_assoc,
    Nat.sub_sub]

theorem strncpy_of_le {src : List Char} {n : Nat} (short : n ≤ src.length) :
    strncpy src n = src.take n := by
  simp [strncpy, Nat.sub_eq_zero_of_le short]

@[simp] theorem strncpy_zero (src : List Char) : strncpy src 0 = [] := by
  simp [strncpy]

theorem strncpy_min_append {s : List Char} {m : Nat} (len : s.length = m) (t : List Char) (n : Nat) :
    strncpy s (min n m) ++ strncpy t (n - min n m) = strncpy (s ++ t) n := by
  rw [strncpy_append, strncpy_of_le (len ▸ min_le_right n m), len]
  by_cases within : n ≤ m
  · rw [min_eq_left within, Nat.sub_self, Nat.sub_eq_zero_of_le within]
  · rw [min_eq_right (by omega), List.take_of_length_le (by omega),
      List.take_of_length_le (by omega)]

/-- The `osize` bytes `_qd_policy_link_user_name_subst` writes are what one `strncpy` of the
substituted name into `osize` bytes writes: its first `osize` characters, then NULs. -/
theorem qdPolicyLinkUserNameSubst_eq_strncpy (uname proposed : List Char) (osize : Nat)
    (named : uname ≠ []) :
    qdPolicyLinkUserNameSubst uname proposed osize =
      (strstr proposed uname).map (fun offset => strncpy (substUser proposed uname offset) osize) := by
  unfold qdPolicyLinkUserNameSubst
  rw [if_neg (by simpa using named)]
  cases found : strstr proposed uname with
  | none => rfl
  | some offset =>
    have fits := (strstr_occurs_at found).length_le
    have named := List.length_pos.2 named
    simp only [List.length_drop] at fits
    have leading : strncpy proposed (min osize offset) =
        strncpy (proposed.take offset) (min osize offset) := by
      rw [strncpy_of_le (by omega), strncpy_of_le (by simp; omega), List.take_take,
        min_eq_left (min_le_right osize offset)]
    have trailing : strncpy ("${user}".toList ++ (proposed.drop (min osize offset)).drop uname.length)
          (osize - min osize offset) =
        strncpy ("${user}".toList ++ proposed.drop (offset + uname.length)) (osize - min osize offset) := by
      by_cases within : osize ≤ offset
      · rw [min_eq_left within, Nat.sub_self, strncpy_zero, strncpy_zero]
      · rw [min_eq_right (by omega), List.drop_drop, Nat.add_comm]
    simp only [Option.map_some', List.append_assoc, leading,
      strncpy_min_append rfl, trailing]
    rw [strncpy_min_append (by simp; omega)]
    simp [substUser]

theorem strncpy_unterminated {src : List Char} {n : Nat} (long : n ≤ src.length)
    (noNul : '\x00' ∉ src) : (strncpy src n).length = n ∧ '\x00' ∉ strncpy src n := by
  rw [strncpy_of_le long]
  exact ⟨List.length_take_of_le long, fun taken => noNul (List.mem_of_mem_take taken)⟩

theorem substUser_nul_free {uname proposed : List Char} (offset : Nat) (noNul : '\x00' ∉ proposed) :
    '\x00' ∉ substUser proposed uname offset := by
  simp only [substUser, List.mem_append, not_or]
  exact ⟨⟨fun taken => noNul (List.mem_of_mem_take taken), by decide⟩,
    fun dropped => noNul (List.mem_of_mem_drop dropped)⟩

theorem qdPolicyLinkUserNameSubst_eq_none_iff {uname : List Char} (proposed : List Char) (osize : Nat)
    (named : uname ≠ []) :
    qdPolicyLinkUserNameSubst uname proposed osize = none ↔ ¬ uname <:+: proposed := by
  rw [qdPolicyLinkUserNameSubst_eq_strncpy uname proposed osize named, Option.map_eq_none',
    strstr_eq_none_iff]

theorem cString_strncpy {src : List Char} {n : Nat} (short : src.length < n) (noNul : '\x00' ∉ src) :
    cString (strncpy src n) = src := by
  have padded : n - src.length = (n - src.length - 1) + 1 := by omega
  rw [cString, strncpy, List.take_of_length_le short.le,
    List.takeWhile_append_of_pos fun c mem => bne_iff_ne.2 fun (nul : c = '\x00') => noNul (nul ▸ mem),
    padded,
    List.replicate_succ, List.takeWhile_cons_of_neg (by decide), List.append_nil]

theorem cString_qdPolicyLinkUserNameSubst {uname proposed : List Char} {osize offset : Nat}
    (named : uname ≠ []) (found : strstr proposed uname = some offset) (noNul : '\x00' ∉ proposed)
    (short : (substUser proposed uname offset).length < osize) :
    (qdPolicyLinkUserNameSubst uname proposed osize).map cString = some (substUser proposed uname offset) := by
  rw [qdPolicyLinkUserNameSubst_eq_strncpy uname proposed osize named, found, Option.map_some',
    Option.map_some', cString_strncpy short (substUser_nul_free offset noNul)]

theorem qdPolicyLinkUserNameSubst_unterminated {uname proposed : List Char} {osize offset : Nat}
    (named : uname ≠ []) (found : strstr proposed uname = some offset) (noNul : '\x00' ∉ proposed)
    (long : osize ≤ (substUser proposed uname offset).length) :
    ∃ buf, qdPolicyLinkUserNameSubst uname proposed osize = some buf ∧ buf.length = osize ∧
      '\x00' ∉ buf := by
  rw [qdPolicyLinkUserNameSubst_eq_strncpy uname proposed osize named, found]
  exact ⟨_, rfl, strncpy_unterminated long (substUser_nul_free offset noNul)⟩

/-- A proposed name of 300 characters that starts with the user name `a` fills the 300 bytes of
`substbuf` without a NUL. -/
theorem qdPolicyLinkUserNameSubst_fills_substbuf :
    ∃ buf, qdPolicyLinkUserNameSubst "a".toList ('a' :: List.replicate 299 'x') qpalnUserbufsize =
      some buf ∧ buf.length = qpalnUserbufsize ∧ '\x00' ∉ buf :=
  qdPolicyLinkUserNameSubst_unterminated (by decide) rfl
    (by simp only [List.mem_cons, List.mem_replicate]; decide)
    (by simp only [substUser, List.length_append, List.length_drop, List.length_cons,
      List.length_replicate]; decide)

end DispatchRouter.PolicyLinkName
