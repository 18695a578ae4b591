import SqlBuilder.Dialect
import SqlBuilder.Proofs.Name.Separator
import SqlBuilder.Proofs.Recorded.Outcome
import SqlBuilder.Proofs.Sql.Text
import SqlBuilder.Proofs.Text.Case

/-!
Dialects without a hook write references by themselves: nothing can fail and nothing is noted. Main
statement: the text of a reference is its atoms, each folded if the dialect folds and then quoted.
-/

namespace SqlBuilder.Dialect

open Name

/-- No caller has a say in how identifiers are written. -/
def Hookless : Dialect → Prop
  | .ansi _ => True
  | .snowflake _ hook => hook = none

theorem hookless_ansi (supportsReturning : Bool) : (ansi supportsReturning).Hookless := trivial

theorem hookless_snowflake (folds : Bool) : (snowflake folds none).Hookless := rfl

/-- What an identifier is before it is quoted. -/
def stored : Dialect → List Char → List Char
  | .ansi _, cs => cs
  | .snowflake false _, cs => cs
  | .snowflake true _, cs => if cs.head? = some quoteMark then cs else Text.upperChars cs

def identifierText (dialect : Dialect) (cs : List Char) : List Char :=
  quoteChars (dialect.stored cs)

def atomSql (dialect : Dialect) (atom : List Char) : Sql :=
  if atom = star then Sql.code "*" else [.name (String.ofList (dialect.identifierText atom))]

def referenceSql (dialect : Dialect) (reference : Reference) : Sql :=
  Sql.separated "." (reference.atoms.map dialect.atomSql) ++
    match reference.aliasName with
    | none => []
    | some name => Sql.code " as " ++ [.name (String.ofList (dialect.identifierText name))]

variable {dialect : Dialect}

/-- Whatever way of quoting is asked for, it is applied to what is stored. -/
theorem wrapWith_eq (h : dialect.Hookless) (quote : String → String) (cs : List Char) (context : Value) :
    dialect.wrapWith quote (String.ofList cs) context = pure (quote (String.ofList (dialect.stored cs))) := by
  match dialect, h with
  | .ansi _, _ => rfl
  | .snowflake false _, rfl => rfl
  | .snowflake true _, rfl =>
    have hfold : fold (String.ofList cs) = String.ofList (stored (.snowflake true none) cs) := by
      rw [fold, String.toList_ofList, stored]
      split
      · rfl
      · rw [Text.upper, String.toList_ofList]
    rw [← hfold]
    rfl

theorem wrapIdentifier_eq (h : dialect.Hookless) (cs : List Char) (context : Value) :
    dialect.wrapIdentifier (String.ofList cs) context =
      pure (String.ofList (dialect.identifierText cs)) := by
  rw [wrapIdentifier, wrapWith_eq h, Name.quote, String.toList_ofList, identifierText]

theorem wrapAtom_eq (h : dialect.Hookless) (atom : List Char) (context : Value) :
    dialect.wrapAtom atom context = pure (dialect.atomSql atom) := by
  rw [wrapAtom, atomSql]
  split
  · rfl
  · rw [wrapName, wrapIdentifier_eq h]
    simp

/-- A dialect without a hook writes every reference. -/
theorem wrap_eq (h : dialect.Hookless) (reference : String) (context : Value) :
    dialect.wrap reference context =
      pure (dialect.referenceSql (Reference.parse reference.toList)) := by
  have hatoms : dialect.wrapAtoms (Reference.parse reference.toList).atoms context =
      pure (Sql.separated "." ((Reference.parse reference.toList).atoms.map dialect.atomSql)) := by
    rw [wrapAtoms, funext fun atom => wrapAtom_eq h atom context, List.mapM_pure, pure_bind]
  rw [wrap, hatoms, pure_bind, referenceSql]
  cases (Reference.parse reference.toList).aliasName with
  | none => simp
  | some name =>
    simp only [wrapName]
    rw [wrapIdentifier_eq h]
    simp

theorem stored_star (dialect : Dialect) : dialect.stored star = star := by
  match dialect with
  | .ansi _ => rfl
  | .snowflake false _ => rfl
  | .snowflake true _ => rw [stored]; decide

theorem isQuotedChars_eq_false_of_head? {cs : List Char} (h : cs.head? ≠ some quoteMark) :
    isQuotedChars cs = false := by
  simp [isQuotedChars, h]

/-- Folding leaves alone what is quoted and quotes nothing. -/
theorem isQuotedChars_stored (dialect : Dialect) (cs : List Char) :
    isQuotedChars (dialect.stored cs) = isQuotedChars cs := by
  match dialect with
  | .ansi _ => rfl
  | .snowflake false _ => rfl
  | .snowflake true _ =>
    rw [stored]
    split
    · rfl
    · next hc =>
      rw [isQuotedChars_eq_false_of_head? hc,
        isQuotedChars_eq_false_of_head? (mt Text.head?_upperChars_quote hc)]

theorem stored_of_quoted {cs : List Char} (h : isQuotedChars cs = true) (dialect : Dialect) :
    dialect.stored cs = cs := by
  match dialect with
  | .ansi _ => rfl
  | .snowflake false _ => rfl
  | .snowflake true _ =>
    rw [isQuotedChars_iff.mp h]
    rfl

theorem wellQuoted_stored_iff (dialect : Dialect) (cs : List Char) :
    WellQuoted (dialect.stored cs) ↔ WellQuoted cs := by
  by_cases h : isQuotedChars cs = true
  · rw [stored_of_quoted h]
  · have hc : isQuotedChars cs = false := by simpa using h
    have hs : isQuotedChars (dialect.stored cs) = false := by rw [isQuotedChars_stored, hc]
    exact ⟨fun _ => wellQuoted_of_not_quoted hc, fun _ => wellQuoted_of_not_quoted hs⟩

/-- An identifier is written well unless it looks quoted and is not. -/
theorem isIdentifier_identifierText_iff (dialect : Dialect) (cs : List Char) :
    IsIdentifier (dialect.identifierText cs) ↔ WellQuoted cs := by
  rw [identifierText, isIdentifier_quoteChars_iff, wellQuoted_stored_iff]

theorem identifierText_of_quoted {cs : List Char} (h : isQuotedChars cs = true) (dialect : Dialect) :
    dialect.identifierText cs = cs := by
  rw [identifierText, stored_of_quoted h, quoteChars_of_quoted h]

theorem identifierText_star (dialect : Dialect) : dialect.identifierText star = star := by
  rw [identifierText, stored_star]
  rfl

theorem toList_text_atomSql (dialect : Dialect) (atom : List Char) :
    (dialect.atomSql atom).text.toList = dialect.identifierText atom := by
  rw [atomSql]
  split
  · next h =>
    rw [h, identifierText_star]
    rfl
  · simp [Piece.text]

theorem toList_text_referenceSql (dialect : Dialect) (reference : Reference) :
    (dialect.referenceSql reference).text.toList =
      List.intercalate ['.'] (reference.atoms.map dialect.identifierText) ++
        match reference.aliasName with
        | none => []
        | some name => aliasWord ++ dialect.identifierText name := by
  have hatoms : (fun part : Sql => part.text.toList) ∘ dialect.atomSql = dialect.identifierText :=
    funext (toList_text_atomSql dialect)
  rw [referenceSql, Sql.toList_text_append, Sql.toList_text_separated, List.map_map, hatoms]
  cases reference.aliasName with
  | none => rfl
  | some name => simp [Piece.text, aliasWord]

/-- Nothing is bound in a reference. -/
theorem bindings_referenceSql (dialect : Dialect) (reference : Reference) :
    (dialect.referenceSql reference).bindings = [] := by
  have hatom : ∀ atom, (dialect.atomSql atom).bindings = [] := by
    intro atom
    rw [atomSql]
    split <;> rfl
  have hatoms : (reference.atoms.map dialect.atomSql).flatMap Sql.bindings = [] := by
    simp [List.flatMap_map, hatom]
  rw [referenceSql, Sql.bindings_append, Sql.bindings_separated, hatoms]
  cases reference.aliasName <;> rfl

end SqlBuilder.Dialect
