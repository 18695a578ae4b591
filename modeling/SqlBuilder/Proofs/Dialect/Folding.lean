import SqlBuilder.Proofs.Dialect.Coincidence
import SqlBuilder.Proofs.Name.Folding

/-!
Where unquoted names are folded. Main statement: a reference without quotes is written as the plain dialect
writes it in upper case, so that its case does not matter.
-/

namespace SqlBuilder.Dialect

open Name

theorem stored_of_not_mem {cs : List Char} (h : quoteMark ∉ cs) :
    (snowflake true none).stored cs = Text.upperChars cs := by
  rw [stored, if_neg]
  intro hhead
  obtain ⟨rest, rfl⟩ := List.head?_eq_some_iff.mp hhead
  exact h List.mem_cons_self

theorem upperChars_eq_star_iff {cs : List Char} (h : quoteMark ∉ cs) : Text.upperChars cs = star ↔ cs = star := by
  rw [← stored_of_not_mem h]
  exact stored_eq_star_iff

/-- Folding is done first, and what is left of the writing is done without it. -/
theorem identifierText_folded {cs : List Char} (h : quoteMark ∉ cs) (supportsReturning : Bool) :
    (snowflake true none).identifierText cs = (ansi supportsReturning).identifierText (Text.upperChars cs) := by
  rw [identifierText, stored_of_not_mem h]
  rfl

theorem atomSql_folded {atom : List Char} (h : quoteMark ∉ atom) (supportsReturning : Bool) :
    (snowflake true none).atomSql atom = (ansi supportsReturning).atomSql (Text.upperChars atom) := by
  rw [atomSql, atomSql, identifierText_folded h supportsReturning]
  simp only [upperChars_eq_star_iff h]

theorem referenceSql_folded {reference : Reference} (h : ∀ identifier ∈ reference.identifiers, quoteMark ∉ identifier)
    (supportsReturning : Bool) :
    (snowflake true none).referenceSql reference =
      (ansi supportsReturning).referenceSql (reference.map Text.upperChars) := by
  obtain ⟨atoms, aliasName⟩ := reference
  rw [Reference.identifiers, List.forall_mem_append] at h
  obtain ⟨hatoms, halias⟩ := h
  have hwritten : atoms.map (snowflake true none).atomSql =
      (atoms.map Text.upperChars).map (ansi supportsReturning).atomSql := by
    rw [List.map_map]
    exact List.map_congr_left fun atom hatom => atomSql_folded (hatoms atom hatom) supportsReturning
  rw [referenceSql, referenceSql, Reference.map, hwritten]
  cases aliasName with
  | none => rfl
  | some name =>
    have hname : quoteMark ∉ name := halias name (by simp)
    simp only [Option.map_some, identifierText_folded hname supportsReturning]

/-- Without quotes, folding a reference is writing it in upper case. -/
theorem wrap_folded {reference : String} (h : quoteMark ∉ reference.toList) (supportsReturning : Bool)
    (context : Value) :
    (snowflake true none).wrap reference context =
      (ansi supportsReturning).wrap (Text.upper reference) context := by
  have hidentifiers : ∀ identifier ∈ (Reference.parse reference.toList).identifiers, quoteMark ∉ identifier :=
    fun identifier hmem hquote => h ((Reference.infix_of_mem_parse hmem).subset hquote)
  rw [wrap_eq (hookless_snowflake true), wrap_eq (hookless_ansi supportsReturning),
    referenceSql_folded hidentifiers supportsReturning, Text.upper, String.toList_ofList,
    Reference.parse_upperChars]

/-- References without quotes that are the same in upper case are written alike, as the plain dialect writes
what they are in upper case. -/
theorem wrap_caseInsensitive {a b : String} (ha : quoteMark ∉ a.toList) (hb : quoteMark ∉ b.toList)
    (hupper : Text.upper a = Text.upper b) (context : Value) :
    ∃ sql, ((snowflake true none).wrap a context).outcome = .ok sql ∧
      (snowflake true none).wrap b context = (snowflake true none).wrap a context ∧
      ∀ supportsReturning, ((ansi supportsReturning).wrap (Text.upper a) context).outcome = .ok sql := by
  refine ⟨_, wrap_outcome (hookless_snowflake true) a, ?_, fun supportsReturning => ?_⟩
  · rw [wrap_folded hb false, wrap_folded ha false, hupper]
  · rw [← wrap_folded ha]
    exact wrap_outcome (hookless_snowflake true) a

/-- Letters that become two, a ligature, and a long s in the word before the alias. -/
theorem wrap_caseInsensitive_expanded :
    quoteMark ∉ "straße.ﬁx aſ ŉ".toList ∧ quoteMark ∉ "STRASSE.Fix AS ʼn".toList ∧
      Text.upper "straße.ﬁx aſ ŉ" = Text.upper "STRASSE.Fix AS ʼn" ∧
      ∃ sql, ((snowflake true none).wrap "straße.ﬁx aſ ŉ" .null).outcome = .ok sql ∧
        (snowflake true none).wrap "STRASSE.Fix AS ʼn" .null = (snowflake true none).wrap "straße.ﬁx aſ ŉ" .null ∧
        ∀ supportsReturning,
          ((ansi supportsReturning).wrap (Text.upper "straße.ﬁx aſ ŉ") .null).outcome = .ok sql := by
  have hgiven : quoteMark ∉ "straße.ﬁx aſ ŉ".toList := by decide
  have hother : quoteMark ∉ "STRASSE.Fix AS ʼn".toList := by decide
  have hupper : Text.upper "straße.ﬁx aſ ŉ" = Text.upper "STRASSE.Fix AS ʼn" := by decide +kernel
  exact ⟨hgiven, hother, hupper, wrap_caseInsensitive hgiven hother hupper .null⟩

example : ((snowflake true none).wrap "straße.ﬁx aſ ŉ" .null).outcome.toOption.map Sql.text =
    some "\"STRASSE\".\"FIX\" as \"ʼN\"" := by
  decide +kernel

end SqlBuilder.Dialect
