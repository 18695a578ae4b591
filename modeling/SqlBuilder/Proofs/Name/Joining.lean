import SqlBuilder.Proofs.Name.Bare
import SqlBuilder.Proofs.Name.Folding

/-!
Names that are put together with underscores. Main statements: an underscore does not disturb how what stands on
either side of it is cut, trimmed and split, and what is on one side goes to the atom or the alias on the other.
-/

namespace SqlBuilder

namespace Text

theorem trimLeft_append_underscore (cs rest : List Char) :
    trimLeft (cs ++ '_' :: rest) = trimLeft cs ++ '_' :: rest := by
  have hunderscore : isBlank '_' = false := by decide
  induction cs with
  | nil => exact List.dropWhile_cons_of_neg (by simp [hunderscore])
  | cons c cs ih =>
    cases hc : isBlank c with
    | true =>
      have hgiven : trimLeft (c :: cs) = trimLeft cs := List.dropWhile_cons_of_pos hc
      have hjoined : trimLeft (c :: (cs ++ '_' :: rest)) = trimLeft (cs ++ '_' :: rest) :=
        List.dropWhile_cons_of_pos hc
      rw [List.cons_append, hjoined, hgiven, ih]
    | false =>
      have hkept : ∀ ds, trimLeft (c :: ds) = c :: ds := fun ds => List.dropWhile_cons_of_neg (by simp [hc])
      rw [List.cons_append, hkept, hkept]
      rfl

theorem trimRight_append_underscore (cs rest : List Char) :
    trimRight (cs ++ '_' :: rest) = cs ++ '_' :: trimRight rest := by
  have hreverse : (cs ++ '_' :: rest).reverse = rest.reverse ++ '_' :: cs.reverse := by simp
  have htrim := trimLeft_append_underscore rest.reverse cs.reverse
  rw [trimLeft, trimLeft] at htrim
  rw [trimRight, hreverse, htrim, trimRight]
  simp

theorem trim_append_underscore (cs rest : List Char) :
    trim (cs ++ '_' :: rest) = trimLeft cs ++ '_' :: trimRight rest := by
  rw [trim, trimLeft_append_underscore, trimRight_append_underscore]

theorem trimLeft_trimLeft (cs : List Char) : trimLeft (trimLeft cs) = trimLeft cs := by
  induction cs with
  | nil => rfl
  | cons c cs ih =>
    cases hc : isBlank c with
    | true =>
      have hdrop : trimLeft (c :: cs) = trimLeft cs := List.dropWhile_cons_of_pos hc
      rw [hdrop, ih]
    | false =>
      have hkept : trimLeft (c :: cs) = c :: cs := List.dropWhile_cons_of_neg (by simp [hc])
      rw [hkept, hkept]

end Text

namespace Name

open Text

theorem getLast?_append_underscore {cs rest : List Char} (h : rest.getLast? ≠ some quoteMark) :
    (cs ++ '_' :: rest).getLast? ≠ some quoteMark := by
  rw [List.getLast?_append, List.getLast?_cons]
  cases hlast : rest.getLast? with
  | none => simp [quoteMark]
  | some c => simpa [hlast] using h

theorem isQuotedChars_append_underscore {cs rest : List Char} (h : rest.getLast? ≠ some quoteMark) :
    isQuotedChars (cs ++ '_' :: rest) = false := by
  rw [isQuotedChars, beq_eq_false_iff_ne.mpr (getLast?_append_underscore h), Bool.and_false]

/-! ### Cutting -/

theorem afterSeparator?_append_underscore (cs rest : List Char) :
    afterSeparator? (cs ++ '_' :: rest) = (afterSeparator? cs).map (· ++ '_' :: rest) := by
  have hdrop : ∀ cs, (cs ++ '_' :: rest).dropWhile isBlank = cs.dropWhile isBlank ++ '_' :: rest :=
    fun cs => trimLeft_append_underscore cs rest
  cases cs with
  | nil => rfl
  | cons c cs =>
    cases hc : isBlank c with
    | false => simp [afterSeparator?, hc]
    | true =>
      rw [afterSeparator?, afterSeparator?, hdrop]
      simp only [List.cons_append, List.head?_cons, Option.any_some, hc, if_true]
      -- The word and the blanks around it are all on one side.
      rcases (c :: cs).dropWhile isBlank with _ | ⟨a, _ | ⟨s, _ | ⟨blank, tail⟩⟩⟩
      · rcases rest with _ | ⟨s, _ | ⟨blank, tail⟩⟩ <;> simp [isAliasWord]
      · rcases rest with _ | ⟨blank, tail⟩ <;> simp [isAliasWord]
      · simp [show isBlank '_' = false by decide]
      · simp only [List.cons_append, hdrop]
        split <;> rfl

theorem cutAlias?_append_underscore_of_some {cs before after : List Char}
    (h : cutAlias? cs = some (before, after)) (rest : List Char) :
    cutAlias? (cs ++ '_' :: rest) = some (before, after ++ '_' :: rest) := by
  induction cs generalizing before with
  | nil => cases h
  | cons c cs ih =>
    have hhere := afterSeparator?_append_underscore (c :: cs) rest
    rw [List.cons_append] at hhere ⊢
    rw [cutAlias?] at h ⊢
    cases hafter : afterSeparator? (c :: cs) with
    | some found =>
      rw [hafter] at h hhere
      obtain ⟨rfl, rfl⟩ := Prod.mk.inj (Option.some.inj h)
      rw [hhere]
      rfl
    | none =>
      rw [hafter] at h hhere
      obtain ⟨⟨front, back⟩, hcut, hsame⟩ := Option.map_eq_some_iff.mp h
      obtain ⟨rfl, rfl⟩ := Prod.mk.inj hsame
      rw [hhere, ih hcut]
      rfl

theorem cutAlias?_append_underscore_of_none {cs : List Char} (h : cutAlias? cs = none) (rest : List Char) :
    cutAlias? (cs ++ '_' :: rest) = (cutAlias? rest).map fun (before, after) => (cs ++ '_' :: before, after) := by
  induction cs with
  | nil =>
    have hnone : ∀ x ∈ ['_'], isBlank x = false := by
      simp only [List.mem_singleton, forall_eq]
      decide
    exact cutAlias?_append_of_not_blank hnone rest
  | cons c cs ih =>
    have hhere := afterSeparator?_append_underscore (c :: cs) rest
    rw [cutAlias?] at h
    cases hafter : afterSeparator? (c :: cs) with
    | some found =>
      rw [hafter] at h
      cases h
    | none =>
      rw [hafter] at h hhere
      have hcut : cutAlias? cs = none := Option.map_eq_none_iff.mp h
      rw [List.cons_append] at hhere ⊢
      rw [cutAlias?, hhere, ih hcut, Option.map_none, Option.map_map]
      rfl

/-! ### Splitting -/

theorem splitAtoms_underscore (quoted : Bool) (rest : List Char) :
    ∃ first back, splitAtoms quoted rest = first :: back ∧
      splitAtoms quoted ('_' :: rest) = ('_' :: first) :: back := by
  have hjoint : ¬ (('_' : Char) = '.' ∧ quoted = false) := fun h => absurd h.1 (by decide)
  obtain ⟨first, back, hrest, hcons⟩ := splitAtoms_cons rest hjoint
  rw [if_neg (by decide)] at hrest
  exact ⟨first, back, hrest, hcons⟩

/-- The underscore joins the last atom on its left with the first one on its right. -/
theorem splitAtoms_append_underscore (quoted : Bool) (cs rest : List Char) :
    ∃ front last first back, splitAtoms quoted cs = front ++ [last] ∧
      splitAtoms (quotedAfter quoted cs) rest = first :: back ∧
      splitAtoms quoted (cs ++ '_' :: rest) = front ++ (last ++ '_' :: first) :: back := by
  obtain ⟨front, last, joined, back, hcs, hsplit, happend⟩ := splitAtoms_append_parts quoted cs ('_' :: rest)
  obtain ⟨first, atoms, hrest, hcons⟩ := splitAtoms_underscore (quotedAfter quoted cs) rest
  rw [hsplit] at hcons
  obtain ⟨rfl, rfl⟩ := List.cons.inj hcons
  exact ⟨front, last, first, back, hcs, hrest, happend⟩

theorem quotedAfter_trimLeft (quoted : Bool) (cs : List Char) :
    quotedAfter quoted (trimLeft cs) = quotedAfter quoted cs := by
  induction cs with
  | nil => rfl
  | cons c cs ih =>
    cases hc : isBlank c with
    | true =>
      have hquote : c ≠ quoteMark := by
        rintro rfl
        cases hc
      have hdrop : trimLeft (c :: cs) = trimLeft cs := List.dropWhile_cons_of_pos hc
      rw [hdrop, ih, quotedAfter, if_neg hquote]
    | false =>
      have hkept : trimLeft (c :: cs) = c :: cs := List.dropWhile_cons_of_neg (by simp [hc])
      rw [hkept]

theorem splitAtoms_of_dotsQuoted {quoted : Bool} {cs : List Char} (h : DotsQuoted quoted cs) :
    splitAtoms quoted cs = [cs] := by
  have hsplit := splitAtoms_join (AreAtoms.last h)
  rwa [List.intercalate_singleton] at hsplit

/-! ### References -/

namespace Reference

/-- What is joined to a reference with an alias goes to the alias. -/
theorem parse_append_underscore_of_cut {cs before after : List Char}
    (h : cutAlias? (trimLeft cs) = some (before, after)) (rest : List Char) :
    parse (cs ++ '_' :: rest) =
      { atoms := splitAtoms false (trim before), aliasName := some (trimLeft after ++ '_' :: trimRight rest) } := by
  have htrim : trimRight (trimRight rest) = trimRight rest := by
    rw [trimRight, trimRight, List.reverse_reverse, ← trimLeft, ← trimLeft, trimLeft_trimLeft]
  simp only [parse, trim_append_underscore, cutAlias?_append_underscore_of_some h, htrim]

theorem parse_append_underscore {cs rest : List Char} (h : cutAlias? (trimLeft cs) = none)
    (hrest : cutAlias? (trimRight rest) = none) :
    parse (cs ++ '_' :: rest) =
      { atoms := splitAtoms false (trimLeft cs ++ '_' :: trimRight rest), aliasName := none } := by
  simp only [parse, trim_append_underscore, cutAlias?_append_underscore_of_none h, hrest, Option.map_none]

theorem parse_append_underscore_of_cut_right {cs rest before after : List Char}
    (h : cutAlias? (trimLeft cs) = none) (hrest : cutAlias? (trimRight rest) = some (before, after)) :
    parse (cs ++ '_' :: rest) =
      { atoms := splitAtoms false (trimLeft cs ++ '_' :: trimRight before), aliasName := some (trim after) } := by
  simp only [parse, trim_append_underscore, cutAlias?_append_underscore_of_none h, hrest, Option.map_some,
    trimLeft_trimLeft]

/-- A text that is joined to another as it is: no blank stands at its end, and it has no alias. -/
structure Ends (cs : List Char) : Prop where
  trimmed : trimRight cs = cs
  unaliased : cutAlias? cs = none

theorem Ends.cut {cs : List Char} (h : Ends cs) : cutAlias? (trimRight cs) = none := by
  rw [h.trimmed, h.unaliased]

theorem ends_of_unmarked {cs : List Char} (h : ∀ c ∈ cs, isMark c = false) : Ends cs := by
  have hblank : ∀ c ∈ cs, isBlank c = false := by
    intro c hc
    rw [Bool.eq_false_iff]
    intro hblank
    exact absurd (isMark_of_isBlank hblank) (by simp [h c hc])
  constructor
  · have hreverse : cs.reverse.dropWhile isBlank = cs.reverse := by
      cases hcs : cs.reverse with
      | nil => rfl
      | cons c rest =>
        have hlast : isBlank c = false := hblank c (List.mem_reverse.mp (by simp [hcs]))
        exact List.dropWhile_cons_of_neg (by simp [hlast])
    rw [trimRight, hreverse, List.reverse_reverse]
  · have hcut := cutAlias?_append_of_not_blank hblank []
    rwa [List.append_nil] at hcut

theorem Ends.joined {cs rest : List Char} (h : cutAlias? cs = none) (hrest : Ends rest) :
    Ends (cs ++ '_' :: rest) where
  trimmed := by rw [trimRight_append_underscore, hrest.trimmed]
  unaliased := by rw [cutAlias?_append_underscore_of_none h, hrest.unaliased, Option.map_none]

theorem ends_double {cs : List Char} (h : Ends cs) : Ends (double quoteMark cs ++ [quoteMark]) where
  trimmed := by
    have hquote : isBlank quoteMark = false := by decide
    rw [trimRight, List.reverse_append, List.reverse_singleton, List.singleton_append,
      List.dropWhile_cons_of_neg (by simp [hquote]), List.reverse_cons, List.reverse_reverse]
  unaliased := by
    rw [cutAlias?_eq_none_iff]
    intro hholds
    have hquoted : HoldsSeparator (encloseChars cs) := hholds.mono (List.suffix_cons _ _).isInfix
    exact cutAlias?_eq_none_iff.mp h.unaliased (holdsSeparator_encloseChars_iff.mp hquoted)

/-- What is joined to a reference comes last in it. -/
theorem spelled_joined (cs : List Char) :
    ∃ front, ∀ rest, Ends rest → (parse (cs ++ '_' :: rest)).spelled = front ++ '_' :: rest := by
  cases hcut : cutAlias? (trimLeft cs) with
  | some parts =>
    obtain ⟨before, after⟩ := parts
    refine ⟨trim before ++ aliasWord ++ trimLeft after, fun rest hrest => ?_⟩
    rw [parse_append_underscore_of_cut hcut, hrest.trimmed, spelled, join_splitAtoms]
    simp
  | none =>
    refine ⟨trimLeft cs, fun rest hrest => ?_⟩
    rw [parse_append_underscore hcut hrest.cut, hrest.trimmed, spelled, join_splitAtoms, List.append_nil]

/-- Without dots outside quotes, it stays together in the last identifier. -/
theorem lastIdentifier_joined (cs : List Char) : ∃ front, ∀ rest, Ends rest → DotsQuoted (quotedAfter false cs) rest →
    (parse (cs ++ '_' :: rest)).lastIdentifier = front ++ '_' :: rest := by
  cases hcut : cutAlias? (trimLeft cs) with
  | some parts =>
    obtain ⟨before, after⟩ := parts
    refine ⟨trimLeft after, fun rest hrest _ => ?_⟩
    rw [parse_append_underscore_of_cut hcut, hrest.trimmed, lastIdentifier, Option.getD_some]
  | none =>
    obtain ⟨front, last, -, -, hcs, -, -⟩ := splitAtoms_append_underscore false (trimLeft cs) []
    refine ⟨last, fun rest hrest hdots => ?_⟩
    obtain ⟨front', last', first, back, hcs', hsplit, hatoms⟩ :=
      splitAtoms_append_underscore false (trimLeft cs) rest
    obtain ⟨-, rfl⟩ := List.append_singleton_inj.mp (hcs.symm.trans hcs')
    rw [quotedAfter_trimLeft, splitAtoms_of_dotsQuoted hdots] at hsplit
    obtain ⟨rfl, rfl⟩ := List.cons.inj hsplit
    rw [parse_append_underscore hcut hrest.cut, hrest.trimmed, hatoms, lastIdentifier, Option.getD_none,
      List.getLast?_concat, Option.getD_some]

/-- A text that what is joined to it leaves in one atom, the first: no blank stands in front of it, it has no alias,
and no dot outside quotes. -/
structure Begins (cs : List Char) : Prop where
  trimmed : trimLeft cs = cs
  unaliased : cutAlias? cs = none
  undotted : DotsQuoted false cs

/-- All that is joined to such a text but for the first atom is read in the same way whatever the text is, as long
as it leaves the same quotes open. -/
theorem parse_begins (quoted : Bool) (rest : List Char) :
    ∃ first back aliasName, ∀ cs, Begins cs → quotedAfter false cs = quoted →
      parse (cs ++ '_' :: rest) = { atoms := (cs ++ '_' :: first) :: back, aliasName } := by
  have hsplit : ∀ rest, ∃ first back, ∀ cs, Begins cs → quotedAfter false cs = quoted →
      splitAtoms false (cs ++ '_' :: rest) = (cs ++ '_' :: first) :: back := by
    intro rest
    obtain ⟨first, back, -, hrest⟩ := splitAtoms_underscore quoted rest
    refine ⟨first, back, fun cs hcs hquoted => splitAtoms_append hcs.undotted ?_⟩
    rw [hquoted, hrest]
  cases hcut : cutAlias? (trimRight rest) with
  | none =>
    obtain ⟨first, back, hatoms⟩ := hsplit (trimRight rest)
    refine ⟨first, back, none, fun cs hcs hquoted => ?_⟩
    have hnone : cutAlias? (trimLeft cs) = none := by rw [hcs.trimmed, hcs.unaliased]
    rw [parse_append_underscore hnone hcut, hcs.trimmed, hatoms cs hcs hquoted]
  | some parts =>
    obtain ⟨before, after⟩ := parts
    obtain ⟨first, back, hatoms⟩ := hsplit (trimRight before)
    refine ⟨first, back, some (trim after), fun cs hcs hquoted => ?_⟩
    have hnone : cutAlias? (trimLeft cs) = none := by rw [hcs.trimmed, hcs.unaliased]
    rw [parse_append_underscore_of_cut_right hnone hcut, hcs.trimmed, hatoms cs hcs hquoted]

end Reference

end Name

end SqlBuilder
