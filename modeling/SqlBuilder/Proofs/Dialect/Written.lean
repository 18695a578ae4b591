import SqlBuilder.Proofs.Dialect.Hookless
import SqlBuilder.Proofs.Sql.Site
import SqlBuilder.Proofs.Value.Reading

/-!
What a dialect writes around the values of a statement. Main statements: columns are written if they are
all texts, and neither names nor limits disturb the reading of placeholders.
-/

namespace SqlBuilder

open Name

/-- Whatever looks quoted in the name has the quotes between its ends doubled. -/
def Name.KeepsQuotes (name : String) : Prop :=
  ∀ identifier ∈ (Reference.parse name.toList).identifiers, WellQuoted identifier

theorem Name.keepsQuotes_of_not_quoted {name : String}
    (h : ∀ identifier ∈ (Reference.parse name.toList).identifiers, isQuotedChars identifier = false) :
    KeepsQuotes name :=
  fun identifier hmem => wellQuoted_of_not_quoted (h identifier hmem)

theorem Value.isPlain_intText (n : Int) : (intText n).toList.all Placeholder.isPlain = true :=
  Placeholder.isPlain_of_isNumeral (isNumeral_intText n)

namespace Dialect

open Sql Recorded

/-- What stands for a name. -/
@[irreducible] def written (dialect : Dialect) (name : String) : Sql :=
  dialect.referenceSql (Reference.parse name.toList)

/-- Several names with commas between them. -/
def writtenList (dialect : Dialect) (names : List String) : Sql :=
  Sql.separated ", " (names.map dialect.written)

variable {dialect : Dialect} {context : Value}

theorem wrap_outcome (h : dialect.Hookless) (name : String) :
    (dialect.wrap name context).outcome = .ok (dialect.written name) := by
  rw [wrap_eq h, written]
  rfl

theorem wrapValue_eq_ok (h : dialect.Hookless) {value : Value} {sql : Sql} :
    (dialect.wrapValue value context).outcome = .ok sql ↔
      ∃ name, value = .text name ∧ sql = dialect.written name := by
  rw [wrapValue, bind_outcome_eq_ok]
  simp [Value.toName_eq_ok, wrap_outcome h, eq_comm (b := sql)]

theorem columnize_eq_ok (h : dialect.Hookless) {columns : List Value} {sql : Sql} :
    (dialect.columnize columns context).outcome = .ok sql ↔
      ∃ names : List String, columns = names.map Value.text ∧ sql = dialect.writtenList names := by
  have hmap : ∀ {columns : List Value} {parts : List Sql},
      (columns.mapM (dialect.wrapValue · context)).outcome = .ok parts ↔
        ∃ names : List String, columns = names.map Value.text ∧ parts = names.map dialect.written := by
    intro columns parts
    rw [mapM_outcome_eq_ok]
    constructor
    · intro hparts
      induction hparts with
      | nil => exact ⟨[], rfl, rfl⟩
      | cons hpart _ ih =>
        obtain ⟨name, rfl, rfl⟩ := (wrapValue_eq_ok h).mp hpart
        obtain ⟨names, rfl, rfl⟩ := ih
        exact ⟨name :: names, rfl, rfl⟩
    · rintro ⟨names, rfl, rfl⟩
      induction names with
      | nil => exact .nil
      | cons name names ih => exact .cons ((wrapValue_eq_ok h).mpr ⟨name, rfl, rfl⟩) ih
  rw [columnize, bind_outcome_eq_ok]
  constructor
  · rintro ⟨parts, hparts, hsql⟩
    obtain ⟨names, rfl, rfl⟩ := hmap.mp hparts
    exact ⟨names, rfl, (Except.ok.inj hsql).symm⟩
  · rintro ⟨names, rfl, rfl⟩
    exact ⟨_, hmap.mpr ⟨names, rfl, rfl⟩, rfl⟩

theorem quiet_identifier {identifier : List Char} (h : WellQuoted identifier) :
    Quiet [.name (String.ofList (dialect.identifierText identifier))] :=
  quiet_name ((isIdentifier_identifierText_iff dialect identifier).mpr h)

theorem quiet_atomSql {atom : List Char} (h : WellQuoted atom) : Quiet (dialect.atomSql atom) := by
  rw [atomSql]
  split
  · exact quiet_code (by decide)
  · exact quiet_identifier h

theorem quiet_written {name : String} (h : KeepsQuotes name) : Quiet (dialect.written name) := by
  rw [KeepsQuotes, Reference.identifiers, List.forall_mem_append] at h
  obtain ⟨hatoms, halias⟩ := h
  rw [written, referenceSql]
  refine (quiet_separated (by decide) ?_).append ?_
  · intro part hpart
    obtain ⟨atom, hatom, rfl⟩ := List.mem_map.mp hpart
    exact quiet_atomSql (hatoms atom hatom)
  · cases hname : (Reference.parse name.toList).aliasName with
    | none => exact quiet_nil
    | some aliasName =>
      exact (quiet_code (by decide)).append (quiet_identifier (halias aliasName (by simp [hname])))

theorem quiet_writtenList {names : List String} (h : ∀ name ∈ names, KeepsQuotes name) :
    Quiet (dialect.writtenList names) := by
  refine quiet_separated (by decide) ?_
  intro part hpart
  obtain ⟨name, hname, rfl⟩ := List.mem_map.mp hpart
  exact quiet_written (h name hname)

theorem quiet_limitPart {keyword : String} (hkeyword : keyword.toList.all Placeholder.isPlain = true)
    {value : Value} {parts : List Sql} (h : limitPart keyword value = .ok parts) :
    ∀ part ∈ parts, Quiet part := by
  unfold limitPart at h
  split at h
  · obtain rfl := Except.ok.inj h
    simp
  · obtain ⟨n, -, h⟩ := except_bind_eq_ok.mp h
    obtain rfl := Except.ok.inj h
    have hcode : (keyword ++ " " ++ Value.intText n).toList.all Placeholder.isPlain = true := by
      simp only [String.toList_append, List.all_append, hkeyword, Value.isPlain_intText]
      decide
    simpa using quiet_code hcode

theorem quiet_limitClause {limit offset : Value} {clause : Sql}
    (h : dialect.limitClause limit offset = .ok clause) : Quiet clause := by
  obtain ⟨limits, hlimit, h⟩ := except_bind_eq_ok.mp h
  obtain ⟨offsets, hoffset, h⟩ := except_bind_eq_ok.mp h
  obtain rfl := Except.ok.inj h
  refine quiet_separated (by decide) (List.forall_mem_append.mpr ⟨?_, ?_⟩)
  · exact quiet_limitPart (by decide) hlimit
  · exact quiet_limitPart (by decide) hoffset

end Dialect

end SqlBuilder
