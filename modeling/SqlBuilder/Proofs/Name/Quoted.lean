import SqlBuilder.Proofs.Name.Reference
import SqlBuilder.Proofs.Name.Respelling

/-!
References in which every name is quoted. Main statement: such a reference is spelled as it stands exactly
if none of its names holds a separator, or if the cut is not to be seen.
-/

namespace SqlBuilder.Name

theorem settled_of_mem_encloseChars {names : List (List Char)} {atom : List Char}
    (h : atom ∈ names.map encloseChars) : Settled atom := by
  obtain ⟨name, -, rfl⟩ := List.mem_map.mp h
  exact settled_encloseChars name

/-- Quoted names fall apart at the dots between them. -/
theorem splitAtoms_join_encloseChars {names : List (List Char)} (hne : names ≠ []) :
    splitAtoms false (List.intercalate ['.'] (names.map encloseChars)) = names.map encloseChars := by
  refine splitAtoms_join (areAtoms_of_closed (by simpa using hne) fun atom hatom => ?_)
  obtain ⟨name, -, rfl⟩ := List.mem_map.mp hatom
  have hidentifier : IsIdentifier (encloseChars name) := .quoted (doubled_double name)
  exact ⟨dotsQuoted_of_isIdentifier hidentifier, hidentifier.quotedAfter⟩

/-- Parsed into settled identifiers, and spelled as it stands. -/
def Kept (cs : List Char) : Prop :=
  (∀ identifier ∈ (Reference.parse cs).identifiers, Settled identifier) ∧ (Reference.parse cs).spelled = cs

theorem kept_spelled {reference : Reference} (hatoms : AreAtoms false reference.atoms)
    (hseparator : ∀ atom ∈ reference.atoms, ¬ HoldsSeparator atom)
    (hsettled : ∀ identifier ∈ reference.identifiers, Settled identifier) : Kept reference.spelled := by
  rw [Kept, Reference.parse_spelled hatoms hseparator hsettled]
  exact ⟨hsettled, rfl⟩

/-- The first separator is spelled as before an alias, right after two quotes and right before a quote that
is not the last. -/
def CutUnseen (cs : List Char) : Prop :=
  ∃ before after, cs = (before ++ [quoteMark, quoteMark]) ++ (aliasWord ++ quoteMark :: after) ∧
    ¬ HoldsSeparator before ∧ after ≠ []

/-- What is settled and goes on inside a quoted name ends in a pair of quotes. -/
theorem Settled.ends_in_pair {cs rest name : List Char} {c : Char} (h : Settled cs) (hc : c ≠ quoteMark)
    (hname : cs ++ c :: rest = encloseChars name) :
    ∃ start, cs = quoteMark :: start ++ [quoteMark, quoteMark] := by
  rcases h with rfl | hquoted
  · exact absurd (List.cons.inj hname).1 (by decide)
  · have hbody := isQuotedChars_iff.mp hquoted
    have htail : body cs ++ quoteMark :: c :: rest = Text.double quoteMark name ++ [quoteMark] := by
      rw [hbody] at hname
      simpa [encloseChars] using hname
    have hdoubled : Doubled (body cs ++ quoteMark :: c :: (rest ++ [quoteMark])) := by
      have hpair := (doubled_double name).append (.pair .nil)
      rw [← List.singleton_append, ← List.append_assoc, ← htail] at hpair
      simpa using hpair
    obtain ⟨start, hstart⟩ := hdoubled.quote_before hc
    exact ⟨start, by rw [hbody, hstart]; simp⟩

section Names

variable {names : List (List Char)} {cs : List Char} (hnames : splitAtoms false cs = names.map encloseChars)
include hnames

theorem join_of_quotedNames : List.intercalate ['.'] (names.map encloseChars) = cs := by
  rw [← hnames, join_splitAtoms]

theorem bounded_of_quotedNames : Bounded cs := by
  rw [← join_splitAtoms false cs]
  exact bounded_join (splitAtoms_ne_nil false cs) fun _ hatom =>
    (settled_of_mem_encloseChars (hnames ▸ hatom)).bounded

theorem getLast?_of_quotedNames : cs.getLast? = some quoteMark := by
  have hne : names ≠ [] := by
    rintro rfl
    exact splitAtoms_ne_nil false cs hnames
  have hsplit : names.map encloseChars =
      names.dropLast.map encloseChars ++ [encloseChars (names.getLast hne)] := by
    rw [← List.map_singleton, ← List.map_append, List.dropLast_concat_getLast hne]
  obtain ⟨start, hstart⟩ :=
    suffix_join ['.'] (names.dropLast.map encloseChars) (encloseChars (names.getLast hne))
  rw [← hsplit, join_of_quotedNames hnames] at hstart
  rw [← hstart, encloseChars, ← List.append_assoc]
  exact List.getLast?_concat

theorem quoted_end {xs ys : List Char} (hcut : cs = xs ++ ys) (hne : ys ≠ []) :
    ys.getLast? = some quoteMark := by
  have hlast := getLast?_of_quotedNames hnames
  rw [hcut, List.getLast?_append, List.getLast?_eq_some_getLast hne, Option.some_or] at hlast
  rw [List.getLast?_eq_some_getLast hne, hlast]

theorem holdsSeparator_iff_of_quotedNames : HoldsSeparator cs ↔ ∃ name ∈ names, HoldsSeparator name := by
  rw [← join_of_quotedNames hnames, holdsSeparator_join_iff]
  constructor
  · rintro ⟨atom, hatom, hholds⟩
    obtain ⟨name, hname, rfl⟩ := List.mem_map.mp hatom
    exact ⟨name, hname, holdsSeparator_encloseChars_iff.mp hholds⟩
  · rintro ⟨name, hname, hholds⟩
    exact ⟨encloseChars name, List.mem_map_of_mem hname, holdsSeparator_encloseChars_iff.mpr hholds⟩

/-- Without a separator the reference falls apart at its dots alone. -/
theorem kept_of_not_holdsSeparator (h : ¬ HoldsSeparator cs) : Kept cs := by
  have hspelled : Reference.spelled ⟨splitAtoms false cs, none⟩ = cs := by
    rw [Reference.spelled, join_splitAtoms, List.append_nil]
  have hsettled : ∀ atom ∈ splitAtoms false cs ++ [], Settled atom := by
    rw [List.append_nil, hnames]
    exact fun _ => settled_of_mem_encloseChars
  rw [← hspelled]
  exact kept_spelled (areAtoms_splitAtoms false cs) (fun _ => not_holdsSeparator_of_mem_splitAtoms h) hsettled

/-! ### With a separator -/

/-- Where the reference is cut in two, the first part ends in the beginning of a quoted name. -/
theorem splitAtoms_of_cut {xs ys : List Char} (hcut : cs = xs ++ ys) :
    ∃ front last first back name, splitAtoms false xs = front ++ [last] ∧
      splitAtoms (quotedAfter false xs) ys = first :: back ∧
      (∀ atom ∈ front, Settled atom) ∧ last ++ first = encloseChars name := by
  obtain ⟨front, last, first, back, hxs, hys, happend⟩ := splitAtoms_append_parts false xs ys
  rw [← hcut, hnames] at happend
  have hname : last ++ first ∈ names.map encloseChars := by
    rw [happend]
    exact List.mem_append_right _ List.mem_cons_self
  obtain ⟨name, -, henclosed⟩ := List.mem_map.mp hname
  refine ⟨front, last, first, back, name, hxs, hys, fun atom hatom => ?_, henclosed.symm⟩
  exact settled_of_mem_encloseChars (happend ▸ List.mem_append_left _ hatom)

/-- A first part that ends in two quotes falls into what is settled. -/
theorem settled_of_cut {before rest : List Char} (hcut : cs = (before ++ [quoteMark, quoteMark]) ++ rest) :
    ∀ atom ∈ splitAtoms false (before ++ [quoteMark, quoteMark]), Settled atom := by
  obtain ⟨front, last, first, _, name, hsplit, -, hfront, hname⟩ := splitAtoms_of_cut hnames hcut
  obtain ⟨_, start, pair, _, -, hpair, hmeet⟩ := splitAtoms_append_parts false before [quoteMark, quoteMark]
  have hquotes : ∀ quoted, splitAtoms quoted [quoteMark, quoteMark] = [[quoteMark, quoteMark]] := by decide
  rw [hquotes] at hpair
  obtain ⟨rfl, rfl⟩ := List.cons.inj hpair
  obtain ⟨rfl, hlast⟩ := List.append_inj' (hsplit.symm.trans hmeet) rfl
  obtain rfl := (List.cons.inj hlast).1
  rw [hsplit]
  refine List.forall_mem_append.mpr ⟨hfront, List.forall_mem_singleton.mpr (.inr ?_)⟩
  cases start with
  | nil => exact isQuotedChars_enclose []
  | cons c start =>
    obtain ⟨rfl, -⟩ := List.cons.inj hname
    have hends := isQuotedChars_enclose (start ++ [quoteMark])
    simpa using hends

theorem kept_of_cutUnseen (h : CutUnseen cs) : Kept cs := by
  obtain ⟨before, after, hcut, hbefore, hafter⟩ := h
  have hspelled : Reference.spelled
      ⟨splitAtoms false (before ++ [quoteMark, quoteMark]), some (quoteMark :: after)⟩ = cs := by
    rw [Reference.spelled, join_splitAtoms, ← hcut]
  have hpart : ¬ HoldsSeparator (before ++ [quoteMark, quoteMark]) := by
    intro hholds
    have hlast : HoldsSeparator before ∨ HoldsSeparator [quoteMark] := hholds.of_append_cons (by decide)
    have hquote : HoldsSeparator [] ∨ HoldsSeparator [] :=
      HoldsSeparator.of_append_cons (by decide) (hlast.resolve_left hbefore)
    exact not_holdsSeparator_nil (or_self_iff.mp hquote)
  have halias : Settled (quoteMark :: after) := by
    have hend := quoted_end hnames (hcut.trans (List.append_assoc _ _ _).symm) (List.cons_ne_nil _ _)
    have hlength : 1 ≤ after.length := List.length_pos_iff.mpr hafter
    refine .inr ?_
    rw [isQuotedChars, hend]
    simpa using hlength
  rw [← hspelled]
  exact kept_spelled (areAtoms_splitAtoms false _) (fun _ => not_holdsSeparator_of_mem_splitAtoms hpart)
    (List.forall_mem_append.mpr ⟨settled_of_cut hnames hcut, List.forall_mem_singleton.mpr halias⟩)

/-- Where an alias goes on with a quoted name, settled atoms before it end in a pair of quotes. -/
theorem join_ends_in_pair {atoms : List (List Char)} {name : List Char} (hatoms : AreAtoms false atoms)
    (hsettled : ∀ atom ∈ atoms, Settled atom)
    (hcut : cs = List.intercalate ['.'] atoms ++ (aliasWord ++ name)) :
    ∃ before, List.intercalate ['.'] atoms = before ++ [quoteMark, quoteMark] := by
  obtain ⟨front, last, first, _, given, hsplit, hfirst, -, hgiven⟩ := splitAtoms_of_cut hnames hcut
  rw [splitAtoms_join hatoms] at hsplit
  obtain ⟨rest, rfl⟩ : ∃ rest, first = ' ' :: rest := by
    have hblank : ¬(' ' = '.' ∧ quotedAfter false (List.intercalate ['.'] atoms) = false) := by simp
    obtain ⟨_, _, -, hcons⟩ := splitAtoms_cons ('a' :: 's' :: ' ' :: name) hblank
    exact ⟨_, (List.cons.inj (hfirst.symm.trans hcons)).1⟩
  have hlast : Settled last := hsettled last (by simp [hsplit])
  obtain ⟨start, rfl⟩ := hlast.ends_in_pair (by decide) hgiven
  obtain ⟨before, hbefore⟩ := suffix_join ['.'] front (quoteMark :: start ++ [quoteMark, quoteMark])
  exact ⟨before ++ quoteMark :: start, by rw [hsplit, ← hbefore, List.append_assoc]⟩

theorem cutUnseen_of_kept (hkept : Kept cs) (hholds : HoldsSeparator cs) : CutUnseen cs := by
  have hatoms := Reference.areAtoms_parse cs
  have hseparator : ∀ atom ∈ (Reference.parse cs).atoms, ¬ HoldsSeparator atom := fun _ =>
    Reference.not_holdsSeparator_parse
  have halias : (Reference.parse cs).aliasName ≠ none := fun hnone => by
    have htrim := Reference.aliasName_parse_eq_none_iff.mp hnone
    rw [(bounded_of_quotedNames hnames).trim] at htrim
    exact htrim hholds
  obtain ⟨name, hname⟩ := Option.ne_none_iff_exists'.mp halias
  obtain ⟨hsettled, hspelled⟩ := hkept
  rw [Reference.identifiers, hname, List.forall_mem_append] at hsettled
  rw [Reference.spelled, hname] at hspelled
  obtain ⟨before, hbefore⟩ := join_ends_in_pair hnames hatoms hsettled.1 hspelled.symm
  have hnone : ¬ HoldsSeparator before := fun hin => by
    have hjoined := hin.mono (List.prefix_append before [quoteMark, quoteMark]).isInfix
    rw [← hbefore] at hjoined
    obtain ⟨atom, hatom, hfound⟩ := holdsSeparator_join_iff.mp hjoined
    exact hseparator atom hatom hfound
  rw [hbefore] at hspelled
  rcases hsettled.2 name (by simp) with rfl | hquoted
  · have hend :=
      quoted_end hnames (hspelled.symm.trans (List.append_assoc _ _ _).symm) (List.cons_ne_nil _ _)
    exact absurd hend (by decide)
  · rw [isQuotedChars_iff.mp hquoted] at hspelled
    exact ⟨before, body name ++ [quoteMark], hspelled.symm, hnone, by simp⟩

/-- Quoted names are spelled as they stand if none of them holds a separator, or if the cut is unseen. -/
theorem kept_iff_of_quotedNames : Kept cs ↔ (∀ name ∈ names, ¬ HoldsSeparator name) ∨ CutUnseen cs := by
  have hnone : ¬ HoldsSeparator cs ↔ ∀ name ∈ names, ¬ HoldsSeparator name := by
    rw [holdsSeparator_iff_of_quotedNames hnames]
    simp
  rw [← hnone]
  constructor
  · intro hkept
    by_cases hcut : HoldsSeparator cs
    · exact .inr (cutUnseen_of_kept hnames hkept hcut)
    · exact .inl hcut
  · rintro (huncut | hunseen)
    · exact kept_of_not_holdsSeparator hnames huncut
    · exact kept_of_cutUnseen hnames hunseen

end Names

end SqlBuilder.Name
