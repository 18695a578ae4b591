import SqlBuilder.Proofs.Name.Separator

/-!
References spelled out with dots and the word `as`. Main statement: a reference is parsed from its spelling
if each of its identifiers is the star or stands between quotes.
-/

namespace SqlBuilder.Name

/-! ### Texts between boundaries -/

/-- Starts and ends with a boundary. -/
structure Bounded (cs : List Char) : Prop where
  first : ∃ c rest, cs = c :: rest ∧ c ∈ boundaries
  last : ∃ front c, cs = front ++ [c] ∧ c ∈ boundaries

theorem Bounded.ne_nil {cs : List Char} (h : Bounded cs) : cs ≠ [] := by
  obtain ⟨c, rest, rfl, -⟩ := h.first
  exact List.cons_ne_nil c rest

theorem Settled.bounded {cs : List Char} (h : Settled cs) : Bounded cs := by
  rcases h with rfl | hquoted
  · exact ⟨⟨'*', [], rfl, by decide⟩, ⟨[], '*', rfl, by decide⟩⟩
  · have hsplit := isQuotedChars_iff.mp hquoted
    exact ⟨⟨quoteMark, body cs ++ [quoteMark], hsplit, by decide⟩,
      ⟨quoteMark :: body cs, quoteMark, hsplit, by decide⟩⟩

theorem Bounded.append {xs ys : List Char} (hx : Bounded xs) (hy : Bounded ys) (between : List Char) :
    Bounded (xs ++ (between ++ ys)) := by
  obtain ⟨c, rest, rfl, hc⟩ := hx.first
  obtain ⟨front, d, rfl, hd⟩ := hy.last
  exact ⟨⟨c, rest ++ (between ++ (front ++ [d])), rfl, hc⟩,
    ⟨c :: rest ++ (between ++ front), d, by simp, hd⟩⟩

theorem bounded_join {atoms : List (List Char)} (hne : atoms ≠ []) (h : ∀ atom ∈ atoms, Bounded atom) :
    Bounded (List.intercalate ['.'] atoms) := by
  induction atoms with
  | nil => exact absurd rfl hne
  | cons atom atoms ih =>
    obtain ⟨hatom, hrest⟩ := List.forall_mem_cons.mp h
    cases atoms with
    | nil => simpa using hatom
    | cons next atoms =>
      rw [List.intercalate_cons_cons, List.append_assoc]
      exact hatom.append (ih (List.cons_ne_nil _ _) hrest) ['.']

theorem Bounded.dropBlanks {cs : List Char} (h : Bounded cs) : cs.dropWhile Text.isBlank = cs := by
  obtain ⟨c, rest, rfl, hc⟩ := h.first
  rw [List.dropWhile_cons_of_neg (by simp [not_blank_of_boundary hc])]

theorem Bounded.trim {cs : List Char} (h : Bounded cs) : Text.trim cs = cs := by
  obtain ⟨front, c, hlast, hc⟩ := h.last
  rw [Text.trim, Text.trimLeft, h.dropBlanks, Text.trimRight, hlast, List.reverse_append,
    List.reverse_singleton, List.singleton_append,
    List.dropWhile_cons_of_neg (by simp [not_blank_of_boundary hc]), List.reverse_cons,
    List.reverse_reverse]

theorem areAtoms_of_closed {atoms : List (List Char)} (hne : atoms ≠ [])
    (h : ∀ atom ∈ atoms, DotsQuoted false atom ∧ quotedAfter false atom = false) :
    AreAtoms false atoms :=
  areAtoms_iff.mpr ⟨hne, fun atom hatom => (h atom ((List.dropLast_sublist atoms).mem hatom)).2,
    fun atom hatom => (h atom hatom).1⟩

/-! ### Spelling -/

namespace Reference

def map (change : List Char → List Char) (reference : Reference) : Reference :=
  { atoms := reference.atoms.map change, aliasName := reference.aliasName.map change }

theorem identifiers_map (change : List Char → List Char) (reference : Reference) :
    (reference.map change).identifiers = reference.identifiers.map change := by
  cases reference with
  | mk atoms aliasName => cases aliasName <;> simp [map, identifiers]

def spelled (reference : Reference) : List Char :=
  List.intercalate ['.'] reference.atoms ++
    match reference.aliasName with
    | none => []
    | some name => aliasWord ++ name

theorem aliasName_parse_eq_none_iff {cs : List Char} :
    (parse cs).aliasName = none ↔ ¬ HoldsSeparator (Text.trim cs) := by
  rw [← cutAlias?_eq_none_iff, parse]
  split
  · next hcut => simp [hcut]
  · next hcut => simp [hcut]

theorem parse_spelled {reference : Reference} (hatoms : AreAtoms false reference.atoms)
    (hseparator : ∀ atom ∈ reference.atoms, ¬ HoldsSeparator atom)
    (hsettled : ∀ identifier ∈ reference.identifiers, Settled identifier) :
    parse reference.spelled = reference := by
  obtain ⟨atoms, aliasName⟩ := reference
  rw [identifiers, List.forall_mem_append] at hsettled
  obtain ⟨hsettled, halias⟩ := hsettled
  have hjoined : Bounded (List.intercalate ['.'] atoms) :=
    bounded_join hatoms.ne_nil fun atom hatom => (hsettled atom hatom).bounded
  have hnone : ¬ HoldsSeparator (List.intercalate ['.'] atoms) := fun h => by
    obtain ⟨atom, hatom, hholds⟩ := holdsSeparator_join_iff.mp h
    exact hseparator atom hatom hholds
  cases aliasName with
  | none =>
    rw [spelled, List.append_nil, parse, hjoined.trim, cutAlias?_eq_none_iff.mpr hnone,
      splitAtoms_join hatoms]
  | some name =>
    have hname : Bounded name := (halias name (by simp)).bounded
    obtain ⟨front, c, hlast, hc⟩ := hjoined.last
    have hfront : ¬ HoldsSeparator front := fun h => hnone (h.mono (hlast ▸ (List.prefix_append _ _).isInfix))
    have hcut : cutAlias? (List.intercalate ['.'] atoms ++ (aliasWord ++ name)) =
        some (List.intercalate ['.'] atoms, name) := by
      have hfound := cutAlias?_aliased hc hfront name
      rw [hname.dropBlanks] at hfound
      rw [hlast, List.append_assoc]
      exact hfound
    rw [spelled, parse, (hjoined.append hname aliasWord).trim, hcut]
    simp only [hjoined.trim, hname.trim, splitAtoms_join hatoms]

end Reference

end SqlBuilder.Name
