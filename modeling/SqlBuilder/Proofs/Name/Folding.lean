import SqlBuilder.Proofs.Name.Respelling

/-!
References in upper case. Main statement: they are taken apart where they were before, since blanks, dots
and quotes have no case and only the letters of the word `as` become such letters.
-/

namespace SqlBuilder

namespace Text

/-! ### Blanks -/

theorem not_blank_of_mem_upperChar {c : Char} (hc : isBlank c = false) : ∀ d ∈ upperChar c, isBlank d = false := by
  intro d hd
  cases hblank : isBlank d with
  | false => rfl
  | true =>
    obtain rfl := eq_of_mark_mem_upperChar (isMark_of_isBlank hblank) hd
    rw [hc] at hblank
    cases hblank

theorem upperChars_cons_of_mark {c : Char} (h : isMark c = true) (cs : List Char) :
    upperChars (c :: cs) = c :: upperChars cs := by
  rw [upperChars_cons, leavesMarks_upperChar.of_mark c h, List.singleton_append]

/-- What is written for each character keeps the blanks, and puts none in the place of anything else. -/
theorem dropWhile_flatMap {change : Char → List Char} (hne : ∀ c, change c ≠ [])
    (hblank : ∀ c, isBlank c = true → change c = [c])
    (hother : ∀ c, isBlank c = false → ∀ d ∈ change c, isBlank d = false) (cs : List Char) :
    (cs.flatMap change).dropWhile isBlank = (cs.dropWhile isBlank).flatMap change := by
  induction cs with
  | nil => rfl
  | cons c cs ih =>
    cases hc : isBlank c with
    | true =>
      rw [List.flatMap_cons, hblank c hc, List.singleton_append, List.dropWhile_cons_of_pos hc, ih,
        List.dropWhile_cons_of_pos hc]
    | false =>
      obtain ⟨d, ds, hd⟩ := List.exists_cons_of_ne_nil (hne c)
      have hfirst : isBlank d = false := hother c hc d (by simp [hd])
      rw [List.dropWhile_cons_of_neg (by simp [hc]), List.flatMap_cons, hd, List.cons_append,
        List.dropWhile_cons_of_neg (by simp [hfirst])]

theorem trimLeft_upperChars (cs : List Char) : trimLeft (upperChars cs) = upperChars (trimLeft cs) :=
  dropWhile_flatMap upperChar_ne_nil (fun c hc => leavesMarks_upperChar.of_mark c (isMark_of_isBlank hc))
    (fun _ hc => not_blank_of_mem_upperChar hc) cs

theorem trimRight_upperChars (cs : List Char) : trimRight (upperChars cs) = upperChars (trimRight cs) := by
  have hreverse : ∀ xs : List Char, (upperChars xs).reverse = xs.reverse.flatMap (List.reverse ∘ upperChar) :=
    fun xs => List.reverse_flatMap
  have hdrop : (cs.reverse.flatMap (List.reverse ∘ upperChar)).dropWhile isBlank =
      (cs.reverse.dropWhile isBlank).flatMap (List.reverse ∘ upperChar) := by
    refine dropWhile_flatMap (fun c => ?_) (fun c hc => ?_) (fun c hc d hd => ?_) _
    · simp [upperChar_ne_nil]
    · simp [leavesMarks_upperChar.of_mark c (isMark_of_isBlank hc)]
    · exact not_blank_of_mem_upperChar hc d (by simpa using hd)
  rw [trimRight, hreverse, hdrop, trimRight, ← List.reverse_inj, List.reverse_reverse, hreverse,
    List.reverse_reverse]

theorem trim_upperChars (cs : List Char) : trim (upperChars cs) = upperChars (trim cs) := by
  rw [trim, trimLeft_upperChars, trimRight_upperChars, trim]

end Text

namespace Name

open Text

/-! ### The word between a reference and its alias -/

theorem afterSeparator?_eq_some_iff {cs after : List Char} :
    afterSeparator? cs = some after ↔ cs.head?.any isBlank = true ∧
      ∃ a s blank rest, cs.dropWhile isBlank = a :: s :: blank :: rest ∧ isAliasWord a s = true ∧
        isBlank blank = true ∧ rest.dropWhile isBlank = after := by
  rw [afterSeparator?]
  constructor
  · intro h
    split at h
    case isFalse => cases h
    case isTrue hhead =>
    split at h
    case h_2 => cases h
    case h_1 a s blank rest hdrop =>
    split at h
    case isFalse => cases h
    case isTrue hfound =>
    obtain ⟨hword, hblank⟩ := Bool.and_eq_true_iff.mp hfound
    exact ⟨hhead, a, s, blank, rest, hdrop, hword, hblank, Option.some.inj h⟩
  · rintro ⟨hhead, a, s, blank, rest, hdrop, hword, hblank, rfl⟩
    simp [hhead, hdrop, hword, hblank]

theorem upperChar_of_aliasWord {a s : Char} (h : isAliasWord a s = true) :
    upperChar a = ['A'] ∧ upperChar s = ['S'] := by
  obtain ⟨ha, hs⟩ := isAliasWord_iff.mp h
  simp only [List.mem_cons, List.not_mem_nil, or_false] at ha hs
  constructor
  · rcases ha with rfl | rfl
    · rfl
    · rfl
  · rcases hs with rfl | rfl | rfl
    · rfl
    · rfl
    · decide +kernel

theorem head?_upperChars_any_isBlank (cs : List Char) :
    (upperChars cs).head?.any isBlank = cs.head?.any isBlank := by
  cases cs with
  | nil => rfl
  | cons c cs =>
    obtain ⟨d, ds, hd⟩ := List.exists_cons_of_ne_nil (upperChar_ne_nil c)
    have hmem : d ∈ upperChar c := by simp [hd]
    rw [upperChars_cons, hd]
    change isBlank d = isBlank c
    cases hc : isBlank c with
    | true =>
      rw [leavesMarks_upperChar.of_mark c (isMark_of_isBlank hc)] at hmem
      rw [List.mem_singleton.mp hmem, hc]
    | false => exact not_blank_of_mem_upperChar hc d hmem

theorem afterSeparator?_upperChars (cs : List Char) :
    afterSeparator? (upperChars cs) = (afterSeparator? cs).map upperChars := by
  refine Option.ext fun found => ?_
  rw [Option.map_eq_some_iff, afterSeparator?_eq_some_iff, head?_upperChars_any_isBlank]
  have hdrop : (upperChars cs).dropWhile isBlank = upperChars (cs.dropWhile isBlank) := trimLeft_upperChars cs
  rw [hdrop]
  constructor
  · rintro ⟨hhead, a, s, blank, rest, hcs, hword, hblank, rfl⟩
    have hsplit : upperChars (cs.dropWhile isBlank) = [a, s] ++ blank :: rest := hcs
    obtain ⟨before, after, hbefore, hletters, rfl⟩ :=
      upperChars_eq_append_cons (isMark_of_isBlank hblank) hsplit
    obtain ⟨c, d, rfl, hgiven⟩ := aliasWord_of_upperChars hword hletters
    exact ⟨after.dropWhile isBlank, afterSeparator?_eq_some_iff.mpr
      ⟨hhead, c, d, blank, after, hbefore, hgiven, hblank, rfl⟩, (trimLeft_upperChars after).symm⟩
  · rintro ⟨after, hafter, rfl⟩
    obtain ⟨hhead, a, s, blank, rest, hcs, hword, hblank, rfl⟩ := afterSeparator?_eq_some_iff.mp hafter
    obtain ⟨ha, hs⟩ := upperChar_of_aliasWord hword
    refine ⟨hhead, 'A', 'S', blank, upperChars rest, ?_, by decide, hblank, trimLeft_upperChars rest⟩
    rw [hcs, upperChars_cons, upperChars_cons, ha, hs, upperChars_cons_of_mark (isMark_of_isBlank hblank)]
    rfl

/-- A separator starts with a blank. -/
theorem cutAlias?_append_of_not_blank {xs : List Char} (h : ∀ x ∈ xs, isBlank x = false) (ys : List Char) :
    cutAlias? (xs ++ ys) = (cutAlias? ys).map fun (before, after) => (xs ++ before, after) := by
  induction xs with
  | nil => simp
  | cons x xs ih =>
    obtain ⟨hx, hxs⟩ := List.forall_mem_cons.mp h
    have hnone : afterSeparator? (x :: (xs ++ ys)) = none := by simp [afterSeparator?, hx]
    rw [List.cons_append, cutAlias?, hnone, ih hxs]
    simp [Function.comp_def]

theorem cutAlias?_upperChars (cs : List Char) :
    cutAlias? (upperChars cs) = (cutAlias? cs).map (Prod.map upperChars upperChars) := by
  induction cs with
  | nil => rfl
  | cons c cs ih =>
    cases hc : isBlank c with
    | true =>
      have hafter := afterSeparator?_upperChars (c :: cs)
      rw [upperChars_cons_of_mark (isMark_of_isBlank hc)] at hafter ⊢
      rw [cutAlias?, cutAlias?, hafter, ih]
      cases afterSeparator? (c :: cs) with
      | some after => rfl
      | none =>
        simp only [Option.map_map, Option.map_none]
        refine congrArg (Option.map · (cutAlias? cs)) (funext fun parts => ?_)
        simp [upperChars_cons_of_mark (isMark_of_isBlank hc)]
    | false =>
      have hnone : afterSeparator? (c :: cs) = none := by simp [afterSeparator?, hc]
      rw [upperChars_cons, cutAlias?_append_of_not_blank (not_blank_of_mem_upperChar hc), ih, cutAlias?, hnone]
      simp only [Option.map_map]
      exact congrArg (Option.map · (cutAlias? cs)) (funext fun parts => rfl)

/-! ### Atoms -/

theorem quotedAfter_of_not_mem {cs : List Char} (h : quoteMark ∉ cs) (quoted : Bool) :
    quotedAfter quoted cs = quoted := by
  induction cs with
  | nil => rfl
  | cons c cs ih =>
    obtain ⟨hc, hcs⟩ := not_or.mp (mt List.mem_cons.mpr h)
    rw [quotedAfter, if_neg (Ne.symm hc), ih hcs]

theorem quotedAfter_upperChar (c : Char) (quoted : Bool) :
    quotedAfter quoted (upperChar c) = if c = quoteMark then !quoted else quoted := by
  split
  · next hc =>
    rw [hc, leavesMarks_upperChar.of_mark quoteMark (by decide)]
    rfl
  · next hc =>
    exact quotedAfter_of_not_mem (fun hmem => hc (eq_of_mark_mem_upperChar (by decide) hmem)) quoted

theorem quotedAfter_upperChars (quoted : Bool) (cs : List Char) :
    quotedAfter quoted (upperChars cs) = quotedAfter quoted cs := by
  induction cs generalizing quoted with
  | nil => rfl
  | cons c cs ih =>
    rw [upperChars_cons, quotedAfter_append, quotedAfter_upperChar, ih]
    rfl

theorem dotsQuoted_upperChar {c : Char} {quoted : Bool} (h : ¬(c = '.' ∧ quoted = false)) :
    DotsQuoted quoted (upperChar c) := by
  by_cases hc : c = '.'
  · have hquoted : quoted = true := by simpa [hc] using h
    rw [hc, leavesMarks_upperChar.of_mark '.' (by decide)]
    exact dotsQuoted_cons (fun _ => hquoted) (dotsQuoted_nil _)
  · intro before after hsplit
    exact absurd (eq_of_mark_mem_upperChar (by decide) (by simp [hsplit])) hc

theorem splitAtoms_upperChars (quoted : Bool) (cs : List Char) :
    splitAtoms quoted (upperChars cs) = (splitAtoms quoted cs).map upperChars := by
  induction cs generalizing quoted with
  | nil => rfl
  | cons c cs ih =>
    by_cases hsep : c = '.' ∧ quoted = false
    · obtain ⟨rfl, rfl⟩ := hsep
      rw [upperChars_cons_of_mark (by decide), splitAtoms_dot, splitAtoms_dot, ih]
      rfl
    · obtain ⟨atom, atoms, hrest, hcons⟩ := splitAtoms_cons cs hsep
      have hupper : splitAtoms (quotedAfter quoted (upperChar c)) (upperChars cs) =
          upperChars atom :: atoms.map upperChars := by
        rw [quotedAfter_upperChar, ih, hrest, List.map_cons]
      rw [hcons, upperChars_cons, splitAtoms_append (dotsQuoted_upperChar hsep) hupper]
      rfl

/-- In upper case, a reference has the atoms and the alias that it had, all of them in upper case. -/
theorem Reference.parse_upperChars (cs : List Char) :
    parse (upperChars cs) = (parse cs).map upperChars := by
  rw [parse, parse, trim_upperChars, cutAlias?_upperChars]
  cases cutAlias? (trim cs) with
  | none => simp [map, splitAtoms_upperChars]
  | some parts => simp [map, trim_upperChars, splitAtoms_upperChars]

/-! ### What identifiers are made of -/

theorem suffix_of_afterSeparator? {cs after : List Char} (h : afterSeparator? cs = some after) : after <:+ cs := by
  obtain ⟨-, a, s, blank, rest, hdrop, -, -, rfl⟩ := afterSeparator?_eq_some_iff.mp h
  have hrest : rest <:+ cs.dropWhile isBlank := ⟨[a, s, blank], by rw [hdrop]; rfl⟩
  exact (List.dropWhile_suffix _).trans (hrest.trans (List.dropWhile_suffix _))

theorem suffix_of_cutAlias? {cs before after : List Char} (h : cutAlias? cs = some (before, after)) :
    after <:+ cs := by
  induction cs generalizing before with
  | nil => cases h
  | cons c cs ih =>
    rw [cutAlias?] at h
    split at h
    · next hafter =>
      obtain ⟨-, rfl⟩ := Prod.mk.inj (Option.some.inj h)
      exact suffix_of_afterSeparator? hafter
    · obtain ⟨⟨front, back⟩, hcut, hsame⟩ := Option.map_eq_some_iff.mp h
      obtain ⟨-, rfl⟩ := Prod.mk.inj hsame
      exact (ih hcut).trans (List.suffix_cons c cs)

/-- Every identifier of a reference is a part of it. -/
theorem Reference.infix_of_mem_parse {cs identifier : List Char} (h : identifier ∈ (parse cs).identifiers) :
    identifier <:+: cs := by
  have hatom : ∀ {part atom : List Char}, atom ∈ splitAtoms false part → part <:+: cs → atom <:+: cs := by
    intro part atom hmem hpart
    have hjoined := infix_join ['.'] hmem
    rw [join_splitAtoms] at hjoined
    exact hjoined.trans hpart
  rw [identifiers, parse] at h
  split at h
  · next before after hcut =>
    have hfront : before <+: trim cs := cutAlias?_prefix hcut
    have hbefore : trim before <:+: cs := (infix_trim before).trans (hfront.isInfix.trans (infix_trim cs))
    have hback : after <:+ trim cs := suffix_of_cutAlias? hcut
    have hafter : trim after <:+: cs := (infix_trim after).trans (hback.isInfix.trans (infix_trim cs))
    rcases List.mem_append.mp h with hmem | hmem
    · exact hatom hmem hbefore
    · obtain rfl : identifier = trim after := by simpa using hmem
      exact hafter
  · exact hatom (by simpa using h) (infix_trim cs)

end Name

end SqlBuilder
