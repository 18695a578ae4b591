import SqlBuilder.Proofs.Dialect.Hookless
import SqlBuilder.Proofs.Name.Reference

/-!
References as dialects without hooks write them. Main statement: what is written reads as one reference
exactly when nothing in it looks quoted without being so, but for one case in which two such mistakes
make up for each other.
-/

namespace SqlBuilder

open Name

namespace Name.Reference

/-- The last atom is left open and the alias closes it: with the word between them the two are a
reference of their own. -/
def Overlaps (atoms : List (List Char)) (name : List Char) : Prop :=
  ∃ init last, atoms = init ++ [last] ∧ (∀ a ∈ init, WellQuoted a) ∧ ¬ WellQuoted last ∧
    isQuotedChars name = true ∧ IsReference (last ++ aliasWord ++ name)

def IsClosed (reference : Reference) : Prop :=
  (∀ a ∈ reference.identifiers, WellQuoted a) ∨
    ∃ name, reference.aliasName = some name ∧ Overlaps reference.atoms name

theorem overlaps_cons_iff {atom name : List Char} {atoms : List (List Char)} (hne : atoms ≠ []) :
    Overlaps (atom :: atoms) name ↔ WellQuoted atom ∧ Overlaps atoms name := by
  constructor
  · rintro ⟨init, last, hsplit, hinit, hlast⟩
    cases init with
    | nil => exact absurd (List.cons.inj hsplit).2 hne
    | cons a init =>
      obtain ⟨rfl, rest⟩ := List.cons.inj hsplit
      exact ⟨hinit _ (by simp), init, last, rest, fun a ha => hinit a (by simp [ha]), hlast⟩
  · rintro ⟨hatom, init, last, rfl, hinit, hlast⟩
    exact ⟨atom :: init, last, rfl, by simpa using ⟨hatom, hinit⟩, hlast⟩

theorem overlaps_singleton_iff {atom name : List Char} :
    Overlaps [atom] name ↔
      ¬ WellQuoted atom ∧ isQuotedChars name = true ∧ IsReference (atom ++ aliasWord ++ name) := by
  constructor
  · rintro ⟨init, last, hsplit, _, hlast⟩
    obtain ⟨rfl, rfl⟩ : init = [] ∧ last = atom := by
      cases init with
      | nil => exact ⟨rfl, (List.cons.inj hsplit).1.symm⟩
      | cons a init => simp at hsplit
    exact hlast
  · exact fun h => ⟨[], atom, rfl, by simp, h⟩

end Name.Reference

namespace Dialect

open Name.Reference

variable (dialect : Dialect)

theorem identifierText_of_not_wellQuoted {atom : List Char} (h : ¬ WellQuoted atom) :
    dialect.identifierText atom = atom := by
  cases hq : isQuotedChars atom with
  | false => exact absurd (wellQuoted_of_not_quoted hq) h
  | true => exact identifierText_of_quoted hq dialect

/-- An atom before a dot is closed, so that it is read by itself if it is read at all. -/
theorem isReference_identifierText_dot_iff {atom rest : List Char} (hdots : DotsQuoted false atom)
    (hclosed : quotedAfter false atom = false) (hword : ¬ aliasWord <:+: atom) :
    IsReference (dialect.identifierText atom ++ '.' :: rest) ↔ WellQuoted atom ∧ IsReference rest := by
  by_cases hgood : WellQuoted atom
  · rw [isReference_dot_iff ((isIdentifier_identifierText_iff dialect atom).mpr hgood)]
    exact ⟨fun h => ⟨hgood, h⟩, And.right⟩
  · refine ⟨fun h => ?_, fun h => absurd h.1 hgood⟩
    rw [identifierText_of_not_wellQuoted dialect hgood] at h
    have hopen := (h.open_of_not_wellQuoted hgood hdots hword).1
    rw [hclosed] at hopen
    cases hopen

/-- Without an alias nothing makes up for an atom that is not closed. -/
theorem isReference_atoms_iff {atoms : List (List Char)} (hatoms : AreAtoms false atoms)
    (hword : ∀ a ∈ atoms, ¬ aliasWord <:+: a) :
    IsReference (List.intercalate ['.'] (atoms.map dialect.identifierText)) ↔
      ∀ a ∈ atoms, WellQuoted a := by
  induction atoms with
  | nil => cases hatoms
  | cons atom atoms ih =>
    obtain ⟨hatom, hword⟩ := List.forall_mem_cons.mp hword
    cases hatoms with
    | last hdots =>
      simp only [List.map_cons, List.map_nil, List.intercalate_singleton, List.mem_singleton, forall_eq]
      rw [← isIdentifier_identifierText_iff dialect]
      refine ⟨fun h => ?_, .atom⟩
      by_contra hbad
      rw [isIdentifier_identifierText_iff] at hbad
      rw [identifierText_of_not_wellQuoted dialect hbad, ← List.append_nil atom] at h
      exact absurd (h.open_of_not_wellQuoted hbad hdots hatom).2 (by simp)
    | cons hdots hclosed hrest =>
      rw [List.map_cons, List.intercalate_cons_of_ne_nil (by simpa using hrest.ne_nil),
        List.append_assoc, List.forall_mem_cons, ← ih hrest hword]
      exact isReference_identifierText_dot_iff dialect hdots hclosed hatom

/-- An open atom in front of an alias can be closed only by an alias that looks quoted itself. -/
theorem isReference_open_atom_iff {atom name : List Char} (hbad : ¬ WellQuoted atom)
    (hdots : DotsQuoted false atom) (hword : ¬ aliasWord <:+: atom) :
    IsReference (atom ++ (aliasWord ++ dialect.identifierText name)) ↔
      isQuotedChars name = true ∧ IsReference (atom ++ aliasWord ++ name) := by
  cases hq : isQuotedChars name with
  | true =>
    rw [identifierText_of_quoted hq, ← List.append_assoc]
    exact ⟨fun h => ⟨rfl, h⟩, And.right⟩
  | false =>
    refine ⟨fun h => ?_, fun h => by cases h.1⟩
    have hopen := (h.open_of_not_wellQuoted hbad hdots hword).1
    have hname := (isIdentifier_identifierText_iff dialect name).mpr (wellQuoted_of_not_quoted hq)
    have hall := h.quotedAfter
    rw [quotedAfter_append, hopen, quotedAfter_aliasWord, ← Bool.not_false, quotedAfter_not,
      hname.quotedAfter] at hall
    cases hall

theorem isReference_aliased_iff {atoms : List (List Char)} {name : List Char}
    (hatoms : AreAtoms false atoms) (hword : ∀ a ∈ atoms, ¬ aliasWord <:+: a) :
    IsReference (List.intercalate ['.'] (atoms.map dialect.identifierText) ++
        (aliasWord ++ dialect.identifierText name)) ↔
      ((∀ a ∈ atoms, WellQuoted a) ∧ WellQuoted name) ∨ Overlaps atoms name := by
  induction atoms with
  | nil => cases hatoms
  | cons atom atoms ih =>
    obtain ⟨hatom, hword⟩ := List.forall_mem_cons.mp hword
    cases hatoms with
    | last hdots =>
      simp only [List.map_cons, List.map_nil, List.intercalate_singleton, List.mem_singleton, forall_eq,
        overlaps_singleton_iff]
      by_cases hgood : WellQuoted atom
      · rw [isReference_aliasWord_iff ((isIdentifier_identifierText_iff dialect atom).mpr hgood),
          isIdentifier_identifierText_iff]
        simp [hgood]
      · rw [identifierText_of_not_wellQuoted dialect hgood,
          isReference_open_atom_iff dialect hgood hdots hatom]
        simp [hgood]
    | cons hdots hclosed hrest =>
      rw [List.map_cons, List.intercalate_cons_of_ne_nil (by simpa using hrest.ne_nil),
        List.append_assoc, List.append_assoc, List.forall_mem_cons, overlaps_cons_iff hrest.ne_nil,
        and_assoc, ← and_or_left, ← ih hrest hword]
      exact isReference_identifierText_dot_iff dialect hdots hclosed hatom

/-- A parsed reference is written as a reference exactly if it is closed. -/
theorem isReference_referenceSql_iff {reference : Reference}
    (hatoms : AreAtoms false reference.atoms)
    (hword : ∀ a ∈ reference.atoms, ¬ aliasWord <:+: a) :
    IsReference (dialect.referenceSql reference).text.toList ↔ reference.IsClosed := by
  rw [toList_text_referenceSql, Reference.IsClosed, identifiers]
  cases reference.aliasName with
  | none =>
    rw [List.append_nil, isReference_atoms_iff dialect hatoms hword]
    simp
  | some name =>
    rw [isReference_aliased_iff dialect hatoms hword]
    simp [or_imp, forall_and]

/-- Whatever text is given as a reference, what is written for it is one reference exactly if every
identifier in it that starts and ends with a quote has its other quotes doubled, or if the alias closes
the last atom. -/
theorem wrap_isReference_iff (hookless : dialect.Hookless) (reference : String) (context : Value) :
    ∃ sql, (dialect.wrap reference context).outcome = .ok sql ∧
      (IsReference sql.text.toList ↔ (Reference.parse reference.toList).IsClosed) := by
  refine ⟨dialect.referenceSql (Reference.parse reference.toList), ?_, ?_⟩
  · rw [wrap_eq hookless]
    rfl
  · exact isReference_referenceSql_iff dialect (areAtoms_parse _) fun _ => not_aliasWord_infix_parse

theorem wrap_isReference_quoted_alias :
    (Dialect.snowflake true none).Hookless ∧
      ∃ sql, ((Dialect.snowflake true none).wrap "a.\"b\"\"c\" as \"d.e\"" .null).outcome = .ok sql ∧
        (IsReference sql.text.toList ↔ (Reference.parse "a.\"b\"\"c\" as \"d.e\"".toList).IsClosed) :=
  ⟨hookless_snowflake true, wrap_isReference_iff _ (hookless_snowflake true) _ _⟩

theorem not_isClosed_lone_quote : ¬ (Reference.parse "\"a\"b\"".toList).IsClosed := by
  have hparse : Reference.parse "\"a\"b\"".toList = ⟨[['"', 'a', '"', 'b', '"']], none⟩ := rfl
  rw [hparse]
  rintro (h | ⟨name, hname, _⟩)
  · have hdoubled : Doubled ['a', '"', 'b'] := h ['"', 'a', '"', 'b', '"'] (by simp [identifiers]) (by decide)
    cases hdoubled with
    | other _ hrest =>
      cases hrest with
      | other hc _ => exact hc rfl
  · cases hname

/-- A single quote between the ends goes out as it came, and ends the identifier there. -/
theorem wrap_lone_quote :
    ¬ ∃ sql, ((Dialect.ansi false).wrap "\"a\"b\"" .null).outcome = .ok sql ∧
      IsReference sql.text.toList := by
  rintro ⟨sql, hsql, href⟩
  rw [wrap_eq (hookless_ansi false)] at hsql
  cases hsql
  exact not_isClosed_lone_quote ((isReference_referenceSql_iff _ (areAtoms_parse _)
    fun _ => not_aliasWord_infix_parse).mp href)

end Dialect

end SqlBuilder
