import Mathlib.Data.Nat.Digits.Defs
import SqlBuilder.Proofs.Uri.Acceptance

/-!
Hosts and ports. Main statements: a host that is read once is read again from its own text, unless a colon or
an opening bracket stands in it, and so is its port.
-/

namespace SqlBuilder.Uri

/-! ### Brackets -/

theorem areGroups_of_first {group : List Char} (hgiven : group ≠ []) (hbroken : isHexGroup group = false)
    (groups : List (List Char)) : areGroups (group :: groups) = false := by
  have hside (side : List (List Char)) : sideGroups? (group :: side) = none := by
    have hother : group :: side ≠ [[]] := fun h => hgiven (List.cons.inj h).1
    rw [sideGroups?, if_neg hother, List.all_cons, hbroken]
    rfl
  unfold areGroups aroundGap?
  simp only [List.drop_succ_cons, List.drop_zero]
  cases groups.dropLast.findIdx? List.isEmpty with
  | none => simp [hbroken]
  | some i =>
    simp only []
    split
    · rfl
    · rename_i hgap
      split at hgap
      · cases hgap
      · cases hgap
    · rename_i before after hgap
      split at hgap
      · cases hgap
      · obtain ⟨rfl, -⟩ := Prod.mk.inj (Option.some.inj hgap)
        rw [List.take_succ_cons, hside]

theorem hexGroups?_bracket (cs : List Char) : hexGroups? ('[' :: cs) = none ∨
    ∃ part groups, hexGroups? ('[' :: cs) = some (('[' :: part) :: groups) := by
  obtain ⟨part, parts, hparts⟩ := List.exists_cons_of_ne_nil (Text.splitAt_ne_nil ':' cs)
  have hsplit : Text.splitAt ':' ('[' :: cs) = ('[' :: part) :: parts := by
    rw [Text.splitAt, if_neg (by decide), hparts]
  unfold hexGroups?
  simp only [hsplit]
  split
  · exact .inl rfl
  · rename_i hlength
    split
    · split
      · split
        · obtain ⟨next, parts, rfl⟩ : ∃ next rest, parts = next :: rest := by
            cases parts with
            | nil => simp at hlength
            | cons next parts => exact ⟨next, parts, rfl⟩
          exact .inr ⟨part, _, rfl⟩
        · exact .inl rfl
      · exact .inr ⟨part, parts, rfl⟩
    · exact .inl rfl

/-- No address begins with a bracket. -/
theorem isVersion6_bracket (cs : List Char) : isVersion6 ('[' :: cs) = false := by
  have haddress : (Text.cutAt '%' ('[' :: cs)).1 = '[' :: cs.takeWhile (· != '%') := by
    rw [Text.cutAt_fst]
    exact List.takeWhile_cons_of_pos (by decide)
  have hversion : isVersion6 ('[' :: cs) = (isZone (Text.cutAt '%' ('[' :: cs)).2 &&
      ((hexGroups? (Text.cutAt '%' ('[' :: cs)).1).map areGroups).getD false) := rfl
  rw [hversion, haddress, Bool.and_eq_false_iff]
  right
  obtain hnone | ⟨part, groups, hsome⟩ := hexGroups?_bracket (cs.takeWhile (· != '%'))
  · rw [hnone]
    rfl
  · have hbroken : isHexGroup ('[' :: part) = false := by
      have hvalue : hexValue? '[' = none := by decide
      simp [isHexGroup, hvalue]
    rw [hsome]
    exact areGroups_of_first (List.cons_ne_nil _ _) hbroken groups

theorem head?_of_checkBracketed {host : List Char} (h : checkBracketed host = .ok ()) :
    host.head? ≠ some '[' := by
  intro hhead
  obtain ⟨cs, rfl⟩ : ∃ cs, host = '[' :: cs := by
    cases host with
    | nil => cases hhead
    | cons c cs => exact ⟨cs, by rw [Option.some.inj hhead]⟩
  unfold checkBracketed at h
  rw [if_neg (by simp), isVersion6_bracket] at h
  split at h <;> cases h

/-! ### Locations -/

theorem hostAndPort_sublist (authority : List Char) : (hostAndPort authority).Sublist authority := by
  unfold hostAndPort
  cases hcut : Text.cutAtLast '@' authority with
  | mk before after =>
    cases before with
    | none =>
      obtain ⟨rfl, -⟩ := Text.cutAtLast_eq_none hcut
      exact List.Sublist.refl _
    | some before =>
      obtain ⟨rfl, -⟩ := Text.cutAtLast_eq_some hcut
      exact (List.sublist_cons_self '@' after).trans (List.sublist_append_right before _)

theorem not_mem_hostAndPort (authority : List Char) : '@' ∉ hostAndPort authority := by
  unfold hostAndPort
  cases hcut : Text.cutAtLast '@' authority with
  | mk before after =>
    cases before with
    | none =>
      obtain ⟨rfl, hnone⟩ := Text.cutAtLast_eq_none hcut
      exact hnone
    | some before => exact (Text.cutAtLast_eq_some hcut).2

/-- Brackets in a location enclose the host. -/
theorem bracketed_of_checkBrackets {authority : List Char} (h : checkBrackets authority = .ok ())
    (hmem : '[' ∈ hostAndPort authority) :
    ∃ inside, hostAndPort authority = '[' :: inside ∧ checkBracketed (Text.cutAt ']' inside).1 = .ok () := by
  have hopening : authority.contains '[' = true :=
    List.contains_iff_mem.mpr ((hostAndPort_sublist authority).mem hmem)
  unfold checkBrackets at h
  rw [hopening] at h
  cases hclosing : authority.contains ']' with
  | false =>
    rw [hclosing] at h
    cases h
  | true =>
    rw [hclosing] at h
    simp only [] at h
    cases hcut : Text.cutAt '[' (hostAndPort authority) with
    | mk before inside =>
      rw [hcut] at h
      cases inside with
      | none => exact absurd hmem (Text.cutAt_eq_none hcut).2
      | some inside =>
        simp only [] at h
        split at h
        · cases h
        · rename_i hbefore
          split at h
          · cases h
          · refine ⟨inside, ?_, h⟩
            have hempty : before = [] := by simpa using hbefore
            rw [(Text.cutAt_eq_some hcut).1, hempty, List.nil_append]

/-- Without a bracket in the location, brackets have to be there in pairs or not at all. -/
theorem checkBrackets_unopened {authority : List Char} (h : '[' ∉ hostAndPort authority) :
    checkBrackets authority = .ok () ↔ ('[' ∉ authority ∧ ']' ∉ authority) ∨
      ('[' ∈ authority ∧ ']' ∈ authority ∧
        checkBracketed (Text.cutAt ':' (hostAndPort authority)).1 = .ok ()) := by
  unfold checkBrackets
  rw [Text.cutAt_of_not_mem h]
  by_cases hopens : '[' ∈ authority <;> by_cases hcloses : ']' ∈ authority <;>
    simp [List.contains_eq_mem, hopens, hcloses]

theorem hostPort_sublist (authority : List Char) : (hostPort authority).1.Sublist (hostAndPort authority) := by
  unfold hostPort
  cases hcut : Text.cutAt '[' (hostAndPort authority) with
  | mk before inside =>
    cases inside with
    | none =>
      simp only [hcut, Text.cutAt_fst]
      exact List.takeWhile_sublist _
    | some inside =>
      simp only [hcut, Text.cutAt_fst]
      rw [(Text.cutAt_eq_some hcut).1]
      exact (List.takeWhile_sublist _).trans
        ((List.sublist_cons_self '[' inside).trans (List.sublist_append_right before _))

/-- A host as it is written does not begin with a bracket. -/
theorem head?_hostPort {authority : List Char} (h : checkBrackets authority = .ok ()) :
    (hostPort authority).1.head? ≠ some '[' := by
  by_cases hmem : '[' ∈ hostAndPort authority
  · obtain ⟨inside, hlocation, hchecked⟩ := bracketed_of_checkBrackets h hmem
    have hhost : (hostPort authority).1 = (Text.cutAt ']' inside).1 := by
      have hopening : '[' ∉ ([] : List Char) := List.not_mem_nil
      have hcut : Text.cutAt '[' ('[' :: inside) = ([], some inside) := Text.cutAt_append hopening inside
      simp only [hostPort, hlocation, hcut]
    rw [hhost]
    exact head?_of_checkBracketed hchecked
  · intro hhead
    exact hmem ((hostPort_sublist authority).mem (List.mem_of_mem_head? hhead))

/-! ### Hosts in lower case -/

/-- The characters at which URIs are cut, and those that pass for them. -/
def cuttingMarks : List Nat :=
  (['\t', '\n', '\r', '#', '%', '/', ':', '?', '@', '[', ']'].map Char.toNat) ++ disguisedSeparators

theorem lowersNone_cuttingMarks : Text.LowersNone cuttingMarks where
  letters := by decide +kernel
  sigmas := by decide
  expansions := by decide +kernel
  runs := by decide +kernel

/-- A host in lower case, except for the zone of an address. -/
def lowerHost (host : List Char) : List Char :=
  let (name, zone) := Text.cutAt '%' host
  Text.lowerChars name ++ (zone.map ('%' :: ·)).getD []

theorem host?_eq (authority : List Char) : host? authority =
    if (hostPort authority).1 = [] then none else some (lowerHost (hostPort authority).1) := by
  unfold host?
  split
  · rename_i hnone
    rw [if_pos hnone]
  · rename_i hgiven
    rw [if_neg hgiven]
    rfl

/-- A mark in a host in lower case stood in the host before. -/
theorem mem_of_mem_lowerHost {c : Char} (hmark : c.toNat ∈ cuttingMarks) {host : List Char}
    (h : c ∈ lowerHost host) : c ∈ host := by
  unfold lowerHost at h
  cases hcut : Text.cutAt '%' host with
  | mk name zone =>
    rw [hcut] at h
    cases zone with
    | none =>
      obtain ⟨rfl, -⟩ := Text.cutAt_eq_none hcut
      simp only [Option.map_none, Option.getD_none, List.append_nil] at h
      exact lowersNone_cuttingMarks.mem_of_mem_lowerFrom hmark h
    | some zone =>
      rw [(Text.cutAt_eq_some hcut).1]
      obtain hname | hzone := List.mem_append.mp h
      · exact List.mem_append_left _ (lowersNone_cuttingMarks.mem_of_mem_lowerFrom hmark hname)
      · exact List.mem_append_right _ hzone

theorem lowerHost_ne_nil {host : List Char} (h : host ≠ []) : lowerHost host ≠ [] := by
  unfold lowerHost
  cases hcut : Text.cutAt '%' host with
  | mk name zone =>
    cases zone with
    | none =>
      obtain ⟨rfl, -⟩ := Text.cutAt_eq_none hcut
      exact List.append_ne_nil_of_left_ne_nil (Text.lowerChars_ne_nil h) _
    | some zone => exact List.append_ne_nil_of_right_ne_nil _ (List.cons_ne_nil _ _)

/-- A host in lower case stays as it is. -/
theorem lowerHost_lowerHost (host : List Char) : lowerHost (lowerHost host) = lowerHost host := by
  have hplain (name : List Char) (h : '%' ∉ name) : '%' ∉ Text.lowerChars name :=
    fun hmem => h (lowersNone_cuttingMarks.mem_of_mem_lowerFrom (by decide) hmem)
  cases hcut : Text.cutAt '%' host with
  | mk name zone =>
    cases zone with
    | none =>
      obtain ⟨rfl, hnone⟩ := Text.cutAt_eq_none hcut
      have hlowered : lowerHost name = Text.lowerChars name := by simp [lowerHost, hcut]
      rw [hlowered, lowerHost, Text.cutAt_of_not_mem (hplain name hnone)]
      simp [Text.lowerChars_lowerChars]
    | some zone =>
      have hnone := (Text.cutAt_eq_some hcut).2
      have hlowered : lowerHost host = Text.lowerChars name ++ '%' :: zone := by simp [lowerHost, hcut]
      rw [hlowered, lowerHost, Text.cutAt_append (hplain name hnone)]
      simp [Text.lowerChars_lowerChars]

theorem head?_lowerHost {host : List Char} (h : (lowerHost host).head? = some '[') :
    host.head? = some '[' := by
  unfold lowerHost at h
  cases hcut : Text.cutAt '%' host with
  | mk name zone =>
    rw [hcut] at h
    cases zone with
    | none =>
      obtain ⟨rfl, -⟩ := Text.cutAt_eq_none hcut
      simp only [Option.map_none, Option.getD_none, List.append_nil] at h
      exact lowersNone_cuttingMarks.head?_of_lowerChars (by decide) h
    | some zone =>
      rw [(Text.cutAt_eq_some hcut).1]
      cases name with
      | nil => simp [Text.lowerChars, Text.lowerFrom] at h
      | cons c name =>
        have hname : (Text.lowerChars (c :: name)).head? = some '[' := by
          rwa [List.head?_append_of_ne_nil _ (Text.lowerChars_ne_nil (List.cons_ne_nil c name))] at h
        have hfirst : (c :: name).head? = some '[' :=
          lowersNone_cuttingMarks.head?_of_lowerChars (by decide) hname
        exact hfirst

/-- What is no mark in a host is none in lower case. -/
theorem lowerHost_avoids {p : Char → Bool} (hp : ∀ c, p c = true → c.toNat ∈ cuttingMarks) {host : List Char}
    (h : ∀ c ∈ host, p c = false) : ∀ c ∈ lowerHost host, p c = false := by
  intro c hc
  by_contra hmark
  have htrue : p c = true := by simpa using hmark
  rw [h c (mem_of_mem_lowerHost (hp c htrue) hc)] at htrue
  cases htrue

theorem endsAuthority_cutting (c : Char) (h : endsAuthority c = true) : c.toNat ∈ cuttingMarks := by
  simp only [endsAuthority, Bool.or_eq_true, beq_iff_eq] at h
  obtain (rfl | rfl) | rfl := h <;> decide

theorem isLineBreakOrTab_cutting (c : Char) (h : isLineBreakOrTab c = true) : c.toNat ∈ cuttingMarks := by
  simp only [isLineBreakOrTab, Bool.or_eq_true, beq_iff_eq] at h
  obtain (rfl | rfl) | rfl := h <;> decide

theorem unbroken_eq_self_iff {cs : List Char} : unbroken cs = cs ↔ ∀ c ∈ cs, isLineBreakOrTab c = false := by
  rw [unbroken, List.filter_eq_self]
  simp only [Bool.not_eq_true']

theorem checkAuthority_eq_ok {authority : List Char} : checkAuthority authority = .ok () ↔
    ∀ c ∈ authority, disguisedSeparators.contains c.toNat = false := by
  unfold checkAuthority
  split
  · rename_i hany
    rw [← not_iff_not]
    simpa using hany
  · rename_i hnone
    simpa using hnone

/-! ### Hosts that were read -/

/-- What holds of the text of a host that was read. -/
structure IsHost (host : List Char) : Prop where
  lowered : lowerHost host = host
  plain : '@' ∉ host
  inside : ∀ c ∈ host, endsAuthority c = false
  unbroken : unbroken host = host
  undisguised : ∀ c ∈ host, disguisedSeparators.contains c.toNat = false
  unbracketed : host.head? ≠ some '['

theorem isHost_nil : IsHost [] where
  lowered := rfl
  plain := by simp
  inside := by simp
  unbroken := rfl
  undisguised := by simp
  unbracketed := by simp

theorem isHost_of_host? {parts : Parts} (h : parts.Accepted) {host : List Char}
    (hhost : host? parts.authority = some host) : host ≠ [] ∧ IsHost host := by
  rw [host?_eq] at hhost
  split at hhost
  · cases hhost
  · rename_i hgiven
    obtain rfl := Option.some.inj hhost
    refine ⟨lowerHost_ne_nil hgiven, ?_⟩
    have hlocation := hostPort_sublist parts.authority
    have hauthority := hlocation.trans (hostAndPort_sublist parts.authority)
    exact {
      lowered := lowerHost_lowerHost _
      plain := fun hmem =>
        not_mem_hostAndPort parts.authority (hlocation.mem (mem_of_mem_lowerHost (by decide) hmem))
      inside := lowerHost_avoids endsAuthority_cutting fun c hc => h.inside c (hauthority.mem hc)
      unbroken := unbroken_eq_self_iff.mpr <| lowerHost_avoids isLineBreakOrTab_cutting fun c hc =>
        unbroken_eq_self_iff.mp h.authority_unbroken c (hauthority.mem hc)
      undisguised := by
        refine lowerHost_avoids (fun c hc => List.mem_append_right _ (List.contains_iff_mem.mp hc)) fun c hc => ?_
        exact checkAuthority_eq_ok.mp h.characters c (hauthority.mem hc)
      unbracketed := fun hhead => head?_hostPort h.brackets (head?_lowerHost hhead) }

/-! ### Locations read again -/

/-- A part that stands after a colon, if it is there. -/
def afterColon : Option (List Char) → List Char
  | none => []
  | some digits => ':' :: digits

/-- An authority with what is said of the user in front. -/
def located (info host : List Char) (port : Option (List Char)) : List Char :=
  info ++ '@' :: (host ++ afterColon port)

variable {info host : List Char} {port : Option (List Char)}

theorem not_mem_afterColon {c : Char} (hport : ∀ digits ∈ port, ∀ d ∈ digits, d.isDigit = true)
    (hdigit : c.isDigit = false) (hcolon : c ≠ ':') : c ∉ afterColon port := by
  cases port with
  | none => simp [afterColon]
  | some digits =>
    rw [afterColon, List.mem_cons, not_or]
    refine ⟨hcolon, fun hmem => ?_⟩
    rw [hport digits rfl c hmem] at hdigit
    cases hdigit

theorem cutAt_afterColon (hcolon : ':' ∉ host) : Text.cutAt ':' (host ++ afterColon port) = (host, port) := by
  cases port with
  | none =>
    rw [afterColon, List.append_nil]
    exact Text.cutAt_of_not_mem hcolon
  | some digits => exact Text.cutAt_append hcolon digits

theorem afterColon_avoids {p : Char → Bool} (hport : ∀ digits ∈ port, ∀ d ∈ digits, d.isDigit = true)
    (hcolon : p ':' = false) (hdigits : ∀ c, p c = true → c.isDigit = false) :
    ∀ c ∈ afterColon port, p c = false := by
  intro c hc
  by_contra hmark
  have htrue : p c = true := by simpa using hmark
  refine not_mem_afterColon hport (hdigits c htrue) (fun hsame => ?_) hc
  rw [hsame, hcolon] at htrue
  cases htrue

/-- What is no mark in the parts of an authority is none in the whole. -/
theorem located_avoids {p : Char → Bool} (hinfo : ∀ c ∈ info, p c = false) (hhost : ∀ c ∈ host, p c = false)
    (hport : ∀ digits ∈ port, ∀ d ∈ digits, d.isDigit = true) (hat : p '@' = false) (hcolon : p ':' = false)
    (hdigits : ∀ c, p c = true → c.isDigit = false) : ∀ c ∈ located info host port, p c = false := by
  rw [located, List.forall_mem_append, List.forall_mem_cons, List.forall_mem_append]
  exact ⟨hinfo, hat, hhost, afterColon_avoids hport hcolon hdigits⟩

theorem isDigit_of_endsAuthority (c : Char) (h : endsAuthority c = true) : c.isDigit = false := by
  simp only [endsAuthority, Bool.or_eq_true, beq_iff_eq] at h
  obtain (rfl | rfl) | rfl := h <;> rfl

theorem isDigit_of_isLineBreakOrTab (c : Char) (h : isLineBreakOrTab c = true) : c.isDigit = false := by
  simp only [isLineBreakOrTab, Bool.or_eq_true, beq_iff_eq] at h
  obtain (rfl | rfl) | rfl := h <;> rfl

section

variable (info) (hhost : IsHost host) (hport : ∀ digits ∈ port, ∀ d ∈ digits, d.isDigit = true)

include hhost hport

theorem hostAndPort_located : hostAndPort (located info host port) = host ++ afterColon port := by
  have hplain : '@' ∉ host ++ afterColon port := by
    rw [List.mem_append, not_or]
    exact ⟨hhost.plain, not_mem_afterColon hport (by decide) (by decide)⟩
  rw [hostAndPort, located, Text.cutAtLast_append _ hplain]

theorem not_mem_opening (hopening : '[' ∉ host) : '[' ∉ hostAndPort (located info host port) := by
  rw [hostAndPort_located info hhost hport, List.mem_append, not_or]
  exact ⟨hopening, not_mem_afterColon hport (by decide) (by decide)⟩

theorem hostPort_unopened (hopening : '[' ∉ host) :
    hostPort (located info host port) = Text.cutAt ':' (host ++ afterColon port) := by
  have hnone := not_mem_opening info hhost hport hopening
  rw [hostPort, Text.cutAt_of_not_mem hnone, hostAndPort_located info hhost hport]

/-- A host is read again as it is, unless it has a colon. -/
theorem host?_located_iff (hopening : '[' ∉ host) :
    host? (located info host port) = (if host = [] then none else some host) ↔ ':' ∉ host := by
  rw [host?_eq, hostPort_unopened info hhost hport hopening]
  constructor
  · intro h hcolon
    have hgiven : host ≠ [] := List.ne_nil_of_mem hcolon
    rw [if_neg hgiven, Text.cutAt_fst] at h
    split at h
    · cases h
    · -- What is in front of a colon has none.
      rw [← Option.some.inj h] at hcolon
      exact Text.not_mem_takeWhile ':' _ (mem_of_mem_lowerHost (by decide) hcolon)
  · intro hcolon
    rw [cutAt_afterColon hcolon, hhost.lowered]

/-- Brackets in front of the location are refused, unless the host could stand in them. -/
theorem checkBrackets_located_iff (hopening : '[' ∉ host) (hcolon : ':' ∉ host) :
    checkBrackets (located info host port) = .ok () ↔
      ('[' ∉ info ∧ ']' ∉ info ∧ ']' ∉ host) ∨
        ('[' ∈ info ∧ (']' ∈ info ∨ ']' ∈ host) ∧ checkBracketed host = .ok ()) := by
  have hopens : '[' ∈ located info host port ↔ '[' ∈ info := by
    have hnone := not_mem_afterColon hport (c := '[') (by decide) (by decide)
    simp [located, hopening, hnone]
  have hcloses : ']' ∈ located info host port ↔ ']' ∈ info ∨ ']' ∈ host := by
    have hnone := not_mem_afterColon hport (c := ']') (by decide) (by decide)
    simp [located, hnone]
  rw [checkBrackets_unopened (not_mem_opening info hhost hport hopening), hopens, hcloses,
    hostAndPort_located info hhost hport, cutAt_afterColon hcolon, not_or]

/-- An opening bracket in a host is always refused. -/
theorem not_mem_of_checkBrackets (h : checkBrackets (located info host port) = .ok ()) : '[' ∉ host := by
  intro hmem
  have hlocation : '[' ∈ hostAndPort (located info host port) := by
    rw [hostAndPort_located info hhost hport]
    exact List.mem_append_left _ hmem
  obtain ⟨inside, hinside, -⟩ := bracketed_of_checkBrackets h hlocation
  obtain ⟨c, cs, rfl⟩ := List.exists_cons_of_ne_nil (List.ne_nil_of_mem hmem)
  rw [hostAndPort_located info hhost hport] at hinside
  exact hhost.unbracketed (congrArg some (List.cons.inj hinside).1)

theorem hostPort_located (hopening : '[' ∉ host) (hcolon : ':' ∉ host) :
    hostPort (located info host port) = (host, port) := by
  rw [hostPort_unopened info hhost hport hopening, cutAt_afterColon hcolon]

theorem checkAuthority_located_iff : checkAuthority (located info host port) = .ok () ↔
    ∀ c ∈ info, disguisedSeparators.contains c.toNat = false := by
  have hdigits (c : Char) (hc : disguisedSeparators.contains c.toNat = true) : c.isDigit = false := by
    have hreserved := (disguisedSeparators_reserved c.toNat (List.contains_iff_mem.mp hc)).1
    rw [Char.ofNat_toNat] at hreserved
    simp only [isUnreserved, Char.isAlphanum, Bool.or_eq_false_iff] at hreserved
    exact hreserved.1.1.1.1.2
  rw [checkAuthority_eq_ok]
  constructor
  · exact fun h c hc => h c (List.mem_append_left _ hc)
  · exact fun h => located_avoids (p := fun c => disguisedSeparators.contains c.toNat) h hhost.undisguised
      hport rfl rfl hdigits

end

/-! ### Ports -/

/-- A port that is written in digits is read back. -/
theorem readPort_natText {n : Nat} (h : n ≤ 65535) : readPort (Binary64.natText n) = .ok n := by
  have hdigits : (Binary64.natText n).all Char.isDigit = true :=
    List.all_eq_true.mpr fun c hc => Nat.isDigit_of_mem_toDigits (by decide) (by decide) hc
  have hlength : (Binary64.natText n).length ≤ 5 :=
    Nat.toDigits_length 10 n 5 (by decide) (Nat.lt_of_le_of_lt h (by decide))
  have hnumber : Number.ofDigits ((Binary64.natText n).map fun c => c.toNat - '0'.toNat) = n := by
    rw [Number.ofDigits, List.foldl_map]
    exact Nat.ofDigitChars_toDigits (by decide) (by decide)
  unfold readPort portNumber
  rw [hdigits, hnumber, if_neg (by simp), if_neg (Nat.not_lt_of_le (Nat.le_trans hlength (by decide)))]
  have hrange : ¬ 65535 < n := Nat.not_lt_of_le h
  simp [bind, Except.bind, pure, Except.pure, hrange]

theorem le_of_readPort {digits : List Char} {n : Nat} (h : readPort digits = .ok n) : n ≤ 65535 := by
  unfold readPort at h
  split at h
  · cases h
  · obtain ⟨number, -, h⟩ := Recorded.except_bind_eq_ok.mp h
    split at h
    · cases h
    · rename_i hrange
      obtain rfl := Except.ok.inj h
      exact Nat.le_of_not_lt hrange

theorem le_of_port {authority : List Char} {n : Nat} (h : Uri.port authority = .ok (some n)) : n ≤ 65535 := by
  have hmapped {digits : List Char} (h : some <$> readPort digits = .ok (some n)) : n ≤ 65535 := by
    cases hread : readPort digits with
    | error e =>
      rw [hread] at h
      cases h
    | ok number =>
      rw [hread] at h
      obtain rfl := Option.some.inj (Except.ok.inj h)
      exact le_of_readPort hread
  unfold Uri.port at h
  split at h
  · cases h
  · cases h
  · exact hmapped h

end SqlBuilder.Uri
