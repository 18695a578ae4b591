import SqlBuilder.Proofs.Name.Splitting
import SqlBuilder.Proofs.Text.Case

/-!
Where a reference is cut from its alias. Main statements: a text is cut exactly if it holds a separator,
what stands before the cut holds none, and neither quoting nor folding brings one in.
-/

namespace SqlBuilder.Name

theorem prefix_of_prefix_append_cons {part xs ys : List Char} {c : Char} (hc : c ∉ part)
    (h : part <+: xs ++ c :: ys) : part <+: xs := by
  induction part generalizing xs with
  | nil => exact List.nil_prefix
  | cons p part ih =>
    cases xs with
    | nil =>
      obtain ⟨rfl, -⟩ := List.cons_prefix_cons.mp h
      exact absurd List.mem_cons_self hc
    | cons x xs =>
      obtain ⟨rfl, hrest⟩ := List.cons_prefix_cons.mp h
      exact List.cons_prefix_cons.mpr ⟨rfl, ih (fun hmem => hc (List.mem_cons_of_mem _ hmem)) hrest⟩

/-- A part without the character lies on one side of it. -/
theorem infix_of_infix_append_cons {part xs ys : List Char} {c : Char} (hc : c ∉ part)
    (h : part <:+: xs ++ c :: ys) : part <:+: xs ∨ part <:+: ys := by
  induction xs with
  | nil =>
    rcases List.infix_cons_iff.mp h with hprefix | hinfix
    · exact .inl (prefix_of_prefix_append_cons hc hprefix).isInfix
    · exact .inr hinfix
  | cons x xs ih =>
    rcases List.infix_cons_iff.mp h with hprefix | hinfix
    · have hleft : part <+: x :: xs := prefix_of_prefix_append_cons hc hprefix
      exact .inl hleft.isInfix
    · exact (ih hinfix).imp_left fun hin => List.infix_cons hin

/-! ### Separators -/

/-- The least that separates: a blank, the word `as`, and a blank. -/
inductive IsSeparator : List Char → Prop
  | mk {before a s after : Char} : Text.isBlank before = true → isAliasWord a s = true →
      Text.isBlank after = true → IsSeparator [before, a, s, after]

def HoldsSeparator (cs : List Char) : Prop :=
  ∃ separator, IsSeparator separator ∧ separator <:+: cs

def aliasWord : List Char := [' ', 'a', 's', ' ']

theorem isSeparator_aliasWord : IsSeparator aliasWord :=
  .mk (by decide) (by decide) (by decide)

/-- What stands at the ends of identifiers and between them. -/
def boundaries : List Char := [quoteMark, '*', '.']

theorem not_blank_of_boundary {c : Char} (h : c ∈ boundaries) : Text.isBlank c = false := by
  simp only [boundaries, List.mem_cons, List.not_mem_nil, or_false] at h
  rcases h with rfl | rfl | rfl <;> decide

theorem isAliasWord_iff {a s : Char} : isAliasWord a s = true ↔ a ∈ ['a', 'A'] ∧ s ∈ ['s', 'S', 'ſ'] := by
  simp [isAliasWord, or_assoc]

theorem IsSeparator.not_mem {separator : List Char} (h : IsSeparator separator) {c : Char}
    (hc : c ∈ boundaries) : c ∉ separator := by
  have hblank := not_blank_of_boundary hc
  have hletter : c ∉ ['a', 'A'] ∧ c ∉ ['s', 'S', 'ſ'] := by
    simp only [boundaries, List.mem_cons, List.not_mem_nil, or_false] at hc
    rcases hc with rfl | rfl | rfl <;> decide
  cases h with
  | @mk before a s after hbefore hword hafter =>
    obtain ⟨ha, hs⟩ := isAliasWord_iff.mp hword
    intro hmem
    simp only [List.mem_cons, List.not_mem_nil, or_false] at hmem
    rcases hmem with rfl | rfl | rfl | rfl
    · rw [hbefore] at hblank; cases hblank
    · exact hletter.1 ha
    · exact hletter.2 hs
    · rw [hafter] at hblank; cases hblank

theorem HoldsSeparator.mono {xs ys : List Char} (h : HoldsSeparator xs) (hin : xs <:+: ys) :
    HoldsSeparator ys := by
  obtain ⟨separator, hseparator, hmem⟩ := h
  exact ⟨separator, hseparator, hmem.trans hin⟩

theorem HoldsSeparator.of_append_cons {xs ys : List Char} {c : Char} (hc : c ∈ boundaries)
    (h : HoldsSeparator (xs ++ c :: ys)) : HoldsSeparator xs ∨ HoldsSeparator ys := by
  obtain ⟨separator, hseparator, hmem⟩ := h
  rcases infix_of_infix_append_cons (hseparator.not_mem hc) hmem with hleft | hright
  · exact .inl ⟨separator, hseparator, hleft⟩
  · exact .inr ⟨separator, hseparator, hright⟩

theorem not_holdsSeparator_nil : ¬ HoldsSeparator [] := by
  rintro ⟨separator, hseparator, hmem⟩
  cases hseparator
  cases List.infix_nil.mp hmem

theorem holdsSeparator_join_iff {atoms : List (List Char)} :
    HoldsSeparator (List.intercalate ['.'] atoms) ↔ ∃ atom ∈ atoms, HoldsSeparator atom := by
  refine ⟨fun h => ?_, fun ⟨atom, hatom, h⟩ => h.mono (infix_join ['.'] hatom)⟩
  induction atoms with
  | nil => exact absurd h not_holdsSeparator_nil
  | cons atom atoms ih =>
    cases atoms with
    | nil => exact ⟨atom, by simp, by simpa using h⟩
    | cons next atoms =>
      rw [List.intercalate_cons_cons, List.append_assoc] at h
      rcases h.of_append_cons (by decide) with hfirst | hrest
      · exact ⟨atom, by simp, hfirst⟩
      · obtain ⟨found, hfound, hholds⟩ := ih hrest
        exact ⟨found, List.mem_cons_of_mem _ hfound, hholds⟩

/-! ### Cutting -/

theorem afterSeparator?_append {separator : List Char} (h : IsSeparator separator) (cs : List Char) :
    afterSeparator? (separator ++ cs) = some (cs.dropWhile Text.isBlank) := by
  cases h with
  | @mk before a s after hbefore hword hafter =>
    have ha : Text.isBlank a = false := by
      have hletter := (isAliasWord_iff.mp hword).1
      simp only [List.mem_cons, List.not_mem_nil, or_false] at hletter
      rcases hletter with rfl | rfl <;> decide
    simp [afterSeparator?, hbefore, ha, hword, hafter]

/-- Where something follows a separator, there is one, with no more than blanks before it. -/
theorem separator_of_afterSeparator? {cs after : List Char} (h : afterSeparator? cs = some after) :
    ∃ blanks separator, (∀ c ∈ blanks, Text.isBlank c = true) ∧ IsSeparator separator ∧
      blanks ++ separator <+: cs := by
  unfold afterSeparator? at h
  split at h
  case isFalse => cases h
  case isTrue hhead =>
  split at h
  case h_2 => cases h
  case h_1 a s blank rest hdrop =>
  split at h
  case isFalse => cases h
  case isTrue hfound =>
  obtain ⟨hword, hafter⟩ := Bool.and_eq_true_iff.mp hfound
  have hsplit : cs = cs.takeWhile Text.isBlank ++ a :: s :: blank :: rest := by
    rw [← hdrop, List.takeWhile_append_dropWhile]
  have hne : cs.takeWhile Text.isBlank ≠ [] := by
    cases cs with
    | nil => simp at hhead
    | cons c cs =>
      have hc : Text.isBlank c = true := by simpa using hhead
      simp [hc]
  have hblank : ∀ c ∈ cs.takeWhile Text.isBlank, Text.isBlank c = true :=
    fun c hc => List.all_eq_true.mp (List.all_takeWhile) c hc
  refine ⟨(cs.takeWhile Text.isBlank).dropLast, [(cs.takeWhile Text.isBlank).getLast hne, a, s, blank],
    fun c hc => hblank c (List.dropLast_subset _ hc),
    .mk (hblank _ (List.getLast_mem hne)) hword hafter, rest, ?_⟩
  have hlast := List.dropLast_concat_getLast hne
  calc (cs.takeWhile Text.isBlank).dropLast ++ [(cs.takeWhile Text.isBlank).getLast hne, a, s, blank] ++ rest
      = ((cs.takeWhile Text.isBlank).dropLast ++ [(cs.takeWhile Text.isBlank).getLast hne]) ++
          a :: s :: blank :: rest := by simp
    _ = cs := by rw [hlast, ← hsplit]

theorem cutAlias?_prefix {cs before after : List Char} (h : cutAlias? cs = some (before, after)) :
    before <+: cs := by
  induction cs generalizing before after with
  | nil => simp [cutAlias?] at h
  | cons c cs ih =>
    rw [cutAlias?] at h
    split at h
    · obtain ⟨rfl, _⟩ := Prod.mk.inj (Option.some.inj h)
      exact List.nil_prefix
    · obtain ⟨⟨b, a⟩, hcut, he⟩ := Option.map_eq_some_iff.mp h
      obtain ⟨rfl, _⟩ := Prod.mk.inj he
      exact List.prefix_cons_iff.mpr (.inr ⟨b, rfl, ih hcut⟩)

/-- The first separator is not behind this one. -/
theorem cutAlias?_of_separator {separator : List Char} (hseparator : IsSeparator separator)
    (xs ys : List Char) :
    ∃ before after, cutAlias? (xs ++ separator ++ ys) = some (before, after) ∧
      before.length ≤ xs.length := by
  induction xs with
  | nil =>
    have hafter := afterSeparator?_append hseparator ys
    cases hseparator
    refine ⟨[], ys.dropWhile Text.isBlank, ?_, Nat.le_refl _⟩
    rw [List.nil_append, List.cons_append, cutAlias?, ← List.cons_append, hafter]
  | cons x xs ih =>
    obtain ⟨before, after, h, hlen⟩ := ih
    rw [List.cons_append, List.cons_append, cutAlias?]
    split
    · exact ⟨[], _, rfl, Nat.zero_le _⟩
    · exact ⟨x :: before, after, by rw [h]; rfl, by simpa using hlen⟩

theorem not_holdsSeparator_before {cs before after : List Char}
    (h : cutAlias? cs = some (before, after)) : ¬ HoldsSeparator before := by
  rintro ⟨separator, hseparator, xs, ys, rfl⟩
  obtain ⟨zs, rfl⟩ := cutAlias?_prefix h
  obtain ⟨b, a, hcut, hlen⟩ := cutAlias?_of_separator hseparator xs (ys ++ zs)
  rw [← List.append_assoc, h] at hcut
  obtain ⟨rfl, _⟩ := Prod.mk.inj (Option.some.inj hcut)
  cases hseparator
  simp only [List.length_append, List.length_cons] at hlen
  omega

theorem cutAlias?_eq_none_iff {cs : List Char} : cutAlias? cs = none ↔ ¬ HoldsSeparator cs := by
  constructor
  · rintro h ⟨separator, hseparator, xs, ys, rfl⟩
    obtain ⟨before, after, hcut, _⟩ := cutAlias?_of_separator hseparator xs ys
    rw [h] at hcut
    cases hcut
  · intro h
    induction cs with
    | nil => rfl
    | cons c cs ih =>
      have hrest : cutAlias? cs = none := ih fun hcs => h (hcs.mono (List.suffix_cons c cs).isInfix)
      cases hafter : afterSeparator? (c :: cs) with
      | none => rw [cutAlias?, hafter, hrest]; rfl
      | some after =>
        obtain ⟨blanks, separator, -, hseparator, hprefix⟩ := separator_of_afterSeparator? hafter
        exact absurd ⟨separator, hseparator, (List.suffix_append _ _).isInfix.trans hprefix.isInfix⟩ h

/-- No separator starts before a boundary if none ends there. -/
theorem afterSeparator?_eq_none {xs ys : List Char} {c : Char} (hc : c ∈ boundaries)
    (h : ¬ HoldsSeparator xs) : afterSeparator? (xs ++ c :: ys) = none := by
  refine Option.eq_none_iff_forall_ne_some.mpr fun after hafter => ?_
  obtain ⟨blanks, separator, hblanks, hseparator, hprefix⟩ := separator_of_afterSeparator? hafter
  have hnone : c ∉ blanks ++ separator := by
    rw [List.mem_append, not_or]
    refine ⟨fun hmem => ?_, hseparator.not_mem hc⟩
    have hblank := hblanks c hmem
    rw [not_blank_of_boundary hc] at hblank
    cases hblank
  have hin := (prefix_of_prefix_append_cons hnone hprefix).isInfix
  exact h ⟨separator, hseparator, (List.suffix_append _ _).isInfix.trans hin⟩

/-- A text that ends with a boundary and holds no separator is cut from its alias where it ends. -/
theorem cutAlias?_aliased {xs : List Char} {c : Char} (hc : c ∈ boundaries) (h : ¬ HoldsSeparator xs)
    (cs : List Char) :
    cutAlias? (xs ++ c :: (aliasWord ++ cs)) = some (xs ++ [c], cs.dropWhile Text.isBlank) := by
  induction xs with
  | nil =>
    have hhere : afterSeparator? ([] ++ c :: (aliasWord ++ cs)) = none := afterSeparator?_eq_none hc h
    have hnext : cutAlias? (aliasWord ++ cs) = some ([], cs.dropWhile Text.isBlank) := by
      have hafter := afterSeparator?_append isSeparator_aliasWord cs
      rw [aliasWord, List.cons_append, cutAlias?, ← List.cons_append, ← aliasWord, hafter]
    rw [List.nil_append] at hhere ⊢
    rw [cutAlias?, hhere, hnext]
    rfl
  | cons x xs ih =>
    have hxs : ¬ HoldsSeparator xs := fun hholds => h (hholds.mono (List.suffix_cons x xs).isInfix)
    have hhere : afterSeparator? (x :: xs ++ c :: (aliasWord ++ cs)) = none := afterSeparator?_eq_none hc h
    rw [List.cons_append] at hhere ⊢
    rw [cutAlias?, hhere, ih hxs]
    rfl

/-! ### Parsed references -/

theorem not_holdsSeparator_of_mem_splitAtoms {quoted : Bool} {cs atom : List Char} (h : ¬ HoldsSeparator cs)
    (hatom : atom ∈ splitAtoms quoted cs) : ¬ HoldsSeparator atom := by
  intro hholds
  have hall := hholds.mono (infix_join ['.'] hatom)
  rw [join_splitAtoms] at hall
  exact h hall

theorem Reference.not_holdsSeparator_parse {cs atom : List Char} (h : atom ∈ (parse cs).atoms) :
    ¬ HoldsSeparator atom := by
  rw [parse] at h
  split at h
  next before after hcut =>
    have hbefore : ¬ HoldsSeparator (Text.trim before) := fun hholds =>
      not_holdsSeparator_before hcut (hholds.mono (infix_trim before))
    exact not_holdsSeparator_of_mem_splitAtoms hbefore h
  next hcut => exact not_holdsSeparator_of_mem_splitAtoms (cutAlias?_eq_none_iff.mp hcut) h

theorem Reference.not_aliasWord_infix_parse {cs atom : List Char} (h : atom ∈ (parse cs).atoms) :
    ¬ aliasWord <:+: atom :=
  fun hin => not_holdsSeparator_parse h ⟨aliasWord, isSeparator_aliasWord, hin⟩

/-! ### Quoting and folding -/

theorem double_of_not_mem {cs : List Char} (h : quoteMark ∉ cs) : Text.double quoteMark cs = cs := by
  induction cs with
  | nil => rfl
  | cons c cs ih =>
    obtain ⟨hc, hcs⟩ := not_or.mp (mt List.mem_cons.mpr h)
    rw [Text.double_cons_of_ne (Ne.symm hc), ih hcs]

theorem prefix_of_prefix_double {part cs : List Char} (hquote : quoteMark ∉ part)
    (h : part <+: Text.double quoteMark cs) : part <+: cs := by
  induction cs generalizing part with
  | nil => exact h
  | cons c cs ih =>
    cases part with
    | nil => exact List.nil_prefix
    | cons p part =>
      by_cases hc : c = quoteMark
      · rw [hc, Text.double_cons_self] at h
        obtain ⟨rfl, -⟩ := List.cons_prefix_cons.mp h
        exact absurd List.mem_cons_self hquote
      · rw [Text.double_cons_of_ne hc] at h
        obtain ⟨rfl, hrest⟩ := List.cons_prefix_cons.mp h
        exact List.cons_prefix_cons.mpr ⟨rfl, ih (fun hmem => hquote (List.mem_cons_of_mem _ hmem)) hrest⟩

/-- Doubled quotes keep the parts between the quotes as they are. -/
theorem infix_double_iff {part cs : List Char} (hquote : quoteMark ∉ part) :
    part <:+: Text.double quoteMark cs ↔ part <:+: cs := by
  constructor
  · intro h
    induction cs with
    | nil => exact h
    | cons c cs ih =>
      by_cases hc : c = quoteMark
      · rw [hc, Text.double_cons_self, ← List.singleton_append] at h
        rcases infix_of_infix_append_cons hquote h with hquotes | hrest
        · have hsides : part <:+: [] ∨ part <:+: [] := infix_of_infix_append_cons hquote hquotes
          exact (List.infix_nil.mp (or_self_iff.mp hsides)) ▸ List.nil_infix
        · exact List.infix_cons (ih hrest)
      · rw [Text.double_cons_of_ne hc] at h
        rcases List.infix_cons_iff.mp h with hprefix | hrest
        · rw [← Text.double_cons_of_ne hc] at hprefix
          exact (prefix_of_prefix_double hquote hprefix).isInfix
        · exact List.infix_cons (ih hrest)
  · rintro ⟨xs, ys, rfl⟩
    refine ⟨Text.double quoteMark xs, Text.double quoteMark ys, ?_⟩
    have happend : ∀ a b, Text.double quoteMark (a ++ b) =
        Text.double quoteMark a ++ Text.double quoteMark b := fun a b => List.flatMap_append
    rw [happend, happend, double_of_not_mem hquote]

theorem holdsSeparator_encloseChars_iff {cs : List Char} :
    HoldsSeparator (encloseChars cs) ↔ HoldsSeparator cs := by
  have hdouble : HoldsSeparator (Text.double quoteMark cs) ↔ HoldsSeparator cs :=
    exists_congr fun _ => and_congr_right fun hseparator => infix_double_iff (hseparator.not_mem (by decide))
  rw [← hdouble, encloseChars]
  constructor
  · intro h
    have hends : HoldsSeparator (quoteMark :: Text.double quoteMark cs) ∨ HoldsSeparator [] :=
      HoldsSeparator.of_append_cons (by decide) h
    have hbody : HoldsSeparator [] ∨ HoldsSeparator (Text.double quoteMark cs) :=
      HoldsSeparator.of_append_cons (by decide) (hends.resolve_right not_holdsSeparator_nil)
    exact hbody.resolve_left not_holdsSeparator_nil
  · exact fun h => h.mono ⟨[quoteMark], [quoteMark], rfl⟩

theorem holdsSeparator_quoteChars_iff {cs : List Char} :
    HoldsSeparator (quoteChars cs) ↔ HoldsSeparator cs := by
  rw [quoteChars]
  split
  · exact Iff.rfl
  · exact holdsSeparator_encloseChars_iff

theorem isUpperClosed_a : Text.isUpperClosed ['a', 'A'] = true := by
  decide +kernel

theorem isUpperClosed_s : Text.isUpperClosed ['s', 'S', 'ſ'] = true := by
  decide +kernel

theorem upperExpansions_noAliasWord : (Text.upperExpansions.all fun e =>
    match e.2.map Char.ofNat with
    | [a, s] => !isAliasWord a s
    | _ => true) = true := by
  decide +kernel

theorem upperChar_ne_aliasWord {c a s : Char} (hword : isAliasWord a s = true) :
    Text.upperChar c ≠ [a, s] := by
  intro h
  rw [Text.upperChar] at h
  split at h
  · simp at h
  · rw [Text.mapCase] at h
    split at h
    · next targets hlookup =>
      obtain ⟨before, after, hsplit, -⟩ := List.lookup_eq_some_iff.mp hlookup
      have hnone := List.all_eq_true.mp upperExpansions_noAliasWord (c.toNat, targets) (by simp [hsplit])
      simp [h, hword] at hnone
    · split at h <;> simp at h

theorem upperChars_eq_singleton {c d : Char} {cs : List Char} (h : Text.upperChars (c :: cs) = [d]) :
    cs = [] ∧ Text.upperChar c = [d] := by
  rw [Text.upperChars_cons] at h
  rcases List.append_eq_singleton_iff.mp h with ⟨hnil, -⟩ | ⟨hc, hnil⟩
  · exact absurd hnil (Text.upperChar_ne_nil c)
  · by_cases hcs : cs = []
    · exact ⟨hcs, hc⟩
    · exact absurd hnil (Text.upperChars_ne_nil hcs)

/-- Two letters in upper case that spell the word `as` come from two letters that do. -/
theorem aliasWord_of_upperChars {cs : List Char} {a s : Char} (hword : isAliasWord a s = true)
    (h : Text.upperChars cs = [a, s]) : ∃ c d, cs = [c, d] ∧ isAliasWord c d = true := by
  obtain ⟨ha, hs⟩ := isAliasWord_iff.mp hword
  obtain ⟨c, cs, rfl⟩ := List.exists_cons_of_ne_nil (l := cs) (by rintro rfl; cases h)
  rw [Text.upperChars_cons] at h
  cases cs with
  | nil =>
    rw [show Text.upperChars [] = [] from rfl, List.append_nil] at h
    exact absurd h (upperChar_ne_aliasWord hword)
  | cons d cs =>
    have hrest : Text.upperChars (d :: cs) ≠ [] := Text.upperChars_ne_nil (List.cons_ne_nil d cs)
    rcases List.append_eq_cons_iff.mp h with ⟨hnil, -⟩ | ⟨more, hc, hsplit⟩
    · exact absurd hnil (Text.upperChar_ne_nil c)
    · rcases List.append_eq_singleton_iff.mp hsplit.symm with ⟨rfl, hd⟩ | ⟨-, hnil⟩
      · obtain ⟨rfl, hlast⟩ := upperChars_eq_singleton hd
        exact ⟨c, d, rfl, isAliasWord_iff.mpr
          ⟨Text.mem_of_upperChar isUpperClosed_a ha hc, Text.mem_of_upperChar isUpperClosed_s hs hlast⟩⟩
      · exact absurd hnil hrest

/-- Folding makes no separator. -/
theorem holdsSeparator_of_upperChars {cs : List Char} (h : HoldsSeparator (Text.upperChars cs)) :
    HoldsSeparator cs := by
  obtain ⟨separator, hseparator, xs, ys, hsplit⟩ := h
  cases hseparator with
  | @mk before a s after hbefore hword hafter =>
    have hfirst : Text.upperChars cs = xs ++ before :: ([a, s] ++ after :: ys) := by simpa using hsplit.symm
    obtain ⟨front, rest, rfl, -, hrest⟩ := Text.upperChars_eq_append_cons
      (Text.isMark_of_isBlank hbefore) hfirst
    obtain ⟨middle, back, rfl, hmiddle, -⟩ := Text.upperChars_eq_append_cons
      (Text.isMark_of_isBlank hafter) hrest
    obtain ⟨c, d, rfl, hletters⟩ := aliasWord_of_upperChars hword hmiddle
    exact ⟨[before, c, d, after], .mk hbefore hletters hafter, front, back, by simp⟩

end SqlBuilder.Name
