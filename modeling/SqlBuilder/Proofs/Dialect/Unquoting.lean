import SqlBuilder.Proofs.Dialect.References
import SqlBuilder.Proofs.Name.Unquoting

/-!
Identifiers without their quotes. Main statements: what is written for a name is the name that is kept, but for
its quotes, and a written reference falls apart at the same dots as the given one.
-/

namespace SqlBuilder

namespace Dialect

open Name

variable {dialect : Dialect}

/-- The name that the database keeps for an identifier. -/
def keptName (dialect : Dialect) (cs : List Char) : List Char :=
  unquoteChars (dialect.stored cs)

def keptText (dialect : Dialect) (name : String) : String :=
  String.ofList (dialect.keptName name.toList)

theorem unquoteChars_identifierText (dialect : Dialect) (cs : List Char) :
    unquoteChars (dialect.identifierText cs) = dialect.keptName cs :=
  unquoteChars_quoteChars _

/-- Without its quotes, what is written for a name is the name that is kept. -/
theorem unquote_identifierText (dialect : Dialect) (name : String) :
    unquote (String.ofList (dialect.identifierText name.toList)) = dialect.keptText name := by
  rw [unquote, String.toList_ofList, unquoteChars_identifierText, keptText]

theorem wrapWith_id (h : dialect.Hookless) (name : String) (context : Value) :
    dialect.wrapWith id name context = pure (String.ofList (dialect.stored name.toList)) := by
  have hwrap := wrapWith_eq h id name.toList context
  rwa [String.ofList_toList] at hwrap

theorem unquote_stored (dialect : Dialect) (name : String) :
    unquote (String.ofList (dialect.stored name.toList)) = dialect.keptText name := by
  rw [unquote, String.toList_ofList, keptText, keptName]

theorem keptName_ne_nil {cs : List Char} (h : unquoteChars cs ≠ []) : dialect.keptName cs ≠ [] := by
  cases hquoted : isQuotedChars cs with
  | true => rwa [keptName, stored_of_quoted hquoted]
  | false =>
    rw [unquoteChars_of_not_quoted hquoted] at h
    rw [keptName, unquoteChars_of_not_quoted ((isQuotedChars_stored dialect cs).trans hquoted)]
    match dialect with
    | .ansi _ => exact h
    | .snowflake false _ => exact h
    | .snowflake true _ =>
      rw [stored]
      split
      · exact h
      · exact Text.upperChars_ne_nil h

theorem keptText_ne_empty {name : String} (h : unquote name ≠ "") : dialect.keptText name ≠ "" := by
  have hchars : unquoteChars name.toList ≠ [] := fun hnil => h (by rw [unquote, hnil])
  intro hempty
  exact keptName_ne_nil hchars (by simpa [keptText] using hempty)

/-! ### Atoms of what is written -/

/-- What is no identifier when it is written stays as it was. -/
theorem isIdentifier_or_eq (dialect : Dialect) (cs : List Char) :
    IsIdentifier (dialect.identifierText cs) ∨ dialect.identifierText cs = cs := by
  by_cases h : WellQuoted cs
  · exact .inl ((isIdentifier_identifierText_iff dialect cs).mpr h)
  · exact .inr (identifierText_of_not_wellQuoted dialect h)

theorem dotsQuoted_identifierText {cs : List Char} (h : DotsQuoted false cs) :
    DotsQuoted false (dialect.identifierText cs) := by
  rcases isIdentifier_or_eq dialect cs with hidentifier | hsame
  · exact dotsQuoted_of_isIdentifier hidentifier
  · rwa [hsame]

theorem quotedAfter_identifierText {cs : List Char} (h : quotedAfter false cs = false) :
    quotedAfter false (dialect.identifierText cs) = false := by
  rcases isIdentifier_or_eq dialect cs with hidentifier | hsame
  · exact hidentifier.quotedAfter
  · rwa [hsame]

theorem areAtoms_identifierText {atoms : List (List Char)} (h : AreAtoms false atoms) :
    AreAtoms false (atoms.map dialect.identifierText) := by
  obtain ⟨hne, hclosed, hdots⟩ := areAtoms_iff.mp h
  refine areAtoms_iff.mpr ⟨by simpa using hne, ?_, ?_⟩
  · rw [← List.map_dropLast, List.forall_mem_map]
    exact fun atom hatom => quotedAfter_identifierText (hclosed atom hatom)
  · rw [List.forall_mem_map]
    exact fun atom hatom => dotsQuoted_identifierText (hdots atom hatom)

/-- A reference without an alias is written with as many atoms as it has, each in its place. -/
theorem splitAtoms_referenceSql {reference : Reference} (hatoms : AreAtoms false reference.atoms)
    (halias : reference.aliasName = none) :
    splitAtoms false (dialect.referenceSql reference).text.toList =
      reference.atoms.map dialect.identifierText := by
  rw [toList_text_referenceSql, halias, List.append_nil, splitAtoms_join (areAtoms_identifierText hatoms)]

end Dialect

end SqlBuilder
