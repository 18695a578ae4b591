import SqlBuilder.Proofs.Schema.Ingredients
import SqlBuilder.Proofs.Sql.Words

/-!
Declared and written nullability of columns. Main statement: a definition says that its column is not nullable
exactly if the column counts as such, and it has more than one clause on nulls exactly if the type says so by itself
and nullability was set, too.
-/

namespace SqlBuilder

open Placeholder Sql Words

/-! ### Names -/

namespace Dialect

variable {dialect : Dialect}

theorem reads_identifier {identifier : List Char} (h : Name.WellQuoted identifier) :
    Reads (dialect.identifierText identifier) [] :=
  (silent_of_isIdentifier ((isIdentifier_identifierText_iff dialect identifier).mpr h)).reads

theorem reads_atomSql {atom : List Char} (h : Name.WellQuoted atom) :
    Reads (dialect.atomSql atom).text.toList [] := by
  rw [atomSql]
  split
  · decide
  · simpa [Piece.text] using reads_identifier h

theorem reads_written {name : String} (h : Name.KeepsQuotes name) :
    Reads (dialect.written name).text.toList [] := by
  rw [Name.KeepsQuotes, Name.Reference.identifiers, List.forall_mem_append] at h
  obtain ⟨hatoms, halias⟩ := h
  have hnames : Reads (separated "."
      ((Name.Reference.parse name.toList).atoms.map dialect.atomSql)).text.toList [] := by
    refine (readsEach_of_forall fun part hpart => ?_).separated gap_dot
    obtain ⟨atom, hatom, rfl⟩ := List.mem_map.mp hpart
    exact reads_atomSql (hatoms atom hatom)
  have hword : Reads " as ".toList [] := by decide
  rw [written, referenceSql, toList_text_append]
  cases hname : (Name.Reference.parse name.toList).aliasName with
  | none => exact hnames.append reads_nil (apart_of_head (by simp) _)
  | some aliasName =>
    have halias : Reads (dialect.identifierText aliasName) [] :=
      reads_identifier (halias aliasName (by simp [hname]))
    have haliased := hword.append halias (apart_of_last (by decide) _)
    refine hnames.append ?_ (apart_of_head (by simp [Word.isLetter]) _)
    simpa [Piece.text] using haliased

end Dialect

namespace Schema

open Recorded

theorem silent_quoteLiteral (s : String) : Silent (quoteLiteral s).toList := by
  rw [quoteLiteral, String.toList_ofList]
  exact silent_enclosed (.inl rfl) (scan_double (.inl rfl) s.toList).1 (outside_double s.toList)

theorem silent_literalSql (s : String) : Silent (literalSql s).text.toList := by
  simpa [literalSql, Piece.text] using silent_quoteLiteral s

/-! ### Types -/

/-- The types that are keys by themselves say that they are not nullable. -/
def ColumnType.nullClauses (type : ColumnType) : List Bool :=
  if type.isSelfKeyed then [false] else []

theorem reads_fixedType (type : FixedType) : Reads type.ansi.toList (ColumnType.fixed type).nullClauses ∧
    Reads type.snowflake.toList (ColumnType.fixed type).nullClauses := by
  cases type <;> decide +kernel

theorem reads_typeKeyword : ∀ keyword ∈ typeKeywords,
    Reads keyword.toList [] ∧ Reads (keyword ++ "(").toList [] := by
  decide +kernel

theorem reads_withParameters {keyword : String} (hkeyword : Reads (keyword ++ "(").toList [])
    {parameters : List Sql} (h : ∀ parameter ∈ parameters, Reads parameter.text.toList []) :
    Reads (withParameters keyword parameters).text.toList [] := by
  have hparameters := (readsEach_of_forall h).separated gap_comma
  have hend : Reads ")".toList [] := by decide
  have hopen := hkeyword.append hparameters (apart_of_last (by simp [Word.isLetter]) _)
  rw [withParameters, toList_text_append, toList_text_append, toList_text_code, toList_text_code]
  exact hopen.append hend (apart_of_head (by decide) _)

theorem reads_parameter {values : List Value} (hvalues : ∀ value ∈ values, Silent value.shown.toList) {sql : Sql}
    (h : IsParameter values sql) : Reads sql.text.toList [] := by
  cases h with
  | number n => simpa using (silent_of_isNumeral (Value.isNumeral_intText n) (Value.intText_ne_nil n)).reads
  | literal s => exact (silent_literalSql s).reads
  | given hvalue => simpa [givenSql, Piece.text] using (hvalues _ hvalue).reads

variable {target : Target} {table : Table} {column : Column}

theorem reads_typeSql {dialect : Dialect} {sql : Sql}
    (hverbatim : ∀ value ∈ column.type.verbatim dialect, Silent value.shown.toList)
    (h : (column.typeSql dialect).outcome = .ok sql) : Reads sql.text.toList column.type.nullClauses := by
  have hwritten := isWritten_typeSql h
  generalize column.type = type at hwritten hverbatim
  have hsilent : type.isSelfKeyed = false → type.nullClauses = [] := fun htype => by
    rw [ColumnType.nullClauses, htype]
    rfl
  cases hwritten with
  | fixed hsql =>
    rcases hsql with rfl | rfl
    · simpa using (reads_fixedType _).1
    · simpa using (reads_fixedType _).2
  | keyword htype hkeyword =>
    rw [hsilent htype]
    simpa using (reads_typeKeyword _ hkeyword).1
  | applied htype hkeyword hparameters =>
    rw [hsilent htype]
    exact reads_withParameters (reads_typeKeyword _ hkeyword).2 fun parameter hparameter =>
      reads_parameter hverbatim (hparameters parameter hparameter)
  | given htype hvalue =>
    rw [hsilent htype]
    simpa [givenSql, Piece.text] using (hverbatim _ hvalue).reads

/-! ### Modifiers -/

namespace Column

theorem readsEach_unsignedSql {dialect : Dialect} {parts : List Sql}
    (h : (column.unsignedSql dialect).outcome = .ok parts) : ReadsEach parts [] := by
  have hword : Reads (code "unsigned").text.toList [] := by decide
  rcases parts_of_unsignedSql h with rfl | rfl
  · exact .nil
  · exact readsEach_singleton hword

theorem readsEach_nullableSql (column : Column) :
    ReadsEach column.nullableSql column.modifiers.nullable.toList := by
  rw [nullableSql]
  rcases column.modifiers.nullable with _ | _ | _
  · exact .nil
  · exact readsEach_singleton (by decide)
  · exact readsEach_singleton (by decide)

theorem silent_currentTimestamp (dialect : Dialect) : Silent (currentTimestamp dialect).toList := by
  have hansi : Silent "CURRENT_TIMESTAMP".toList := by decide +kernel
  have hsnowflake : Silent "current_timestamp()".toList := by decide +kernel
  cases dialect with
  | ansi supportsReturning => exact hansi
  | snowflake folds hook => exact hsnowflake

theorem silent_default {dialect : Dialect} {value : Value}
    (hfragments : ∀ value ∈ column.fragments dialect, Silent value.shown.toList)
    (hvalue : column.modifiers.default = some value) (hne : value ≠ .null) :
    Silent (defaultValueSql value).text.toList := by
  cases value with
  | raw sql =>
    have hsql : Silent sql.toList := by
      by_cases hown : sql = currentTimestamp dialect
      · rw [hown]
        exact silent_currentTimestamp dialect
      · exact hfragments (.raw sql) (by simp [fragments, hvalue, hown])
    simpa [defaultValueSql, Piece.text] using hsql
  | null => exact absurd rfl hne
  | bool b => cases b <;> decide
  | int n => simpa [defaultValueSql] using silent_of_isNumeral (Value.isNumeral_intText n) (Value.intText_ne_nil n)
  | float x => simpa [defaultValueSql] using silent_of_isNumeral x.isNumeral_text x.text_ne_nil
  | _ => exact silent_literalSql _

theorem readsEach_defaultSql {dialect : Dialect}
    (hfragments : ∀ value ∈ column.fragments dialect, Silent value.shown.toList) :
    ReadsEach column.defaultSql [] := by
  rw [defaultSql]
  cases hdefault : column.modifiers.default with
  | none => exact .nil
  | some value =>
    refine readsEach_singleton ?_
    rw [toList_text_append, toList_text_code]
    by_cases hnull : value = .null
    · rw [hnull]
      decide
    · exact (silent_default hfragments hdefault hnull).after_default

theorem readsEach_labelled {label : String} (hlabel : Reads label.toList [])
    (hend : label.toList.getLast?.any Word.isLetter = false) (s : String) :
    ReadsEach [code label ++ literalSql s] [] := by
  refine readsEach_singleton ?_
  rw [toList_text_append, toList_text_code]
  exact hlabel.append (silent_literalSql s).reads (apart_of_last hend _)

theorem readsEach_collationSql (column : Column) : ReadsEach column.collationSql [] := by
  rw [collationSql]
  cases column.modifiers.collation with
  | none => exact .nil
  | some collation => exact readsEach_labelled (by decide) (by decide) _

theorem readsEach_commentSql {dialect : Dialect} {context table : Value} {parts later : List Sql}
    (h : (column.commentSql dialect context table).outcome = .ok (parts, later)) : ReadsEach parts [] := by
  rcases parts_of_commentSql h with rfl | ⟨comment, rfl⟩
  · exact .nil
  · exact readsEach_labelled (by decide) (by decide) _

/-- The name, as it is written, says nothing about nulls. -/
def HasSilentName (target : Target) (column : Column) : Prop :=
  ∀ name, (column.wrappedName target.dialect target.context).outcome = .ok name → Reads name.text.toList []

theorem hasSilentName_of_hookless (hookless : target.dialect.Hookless) (hname : KeepQuotes [column.name]) :
    column.HasSilentName target := by
  intro name h
  obtain ⟨text, hgiven, rfl⟩ := (Dialect.wrapValue_eq_ok hookless).mp h
  exact Dialect.reads_written (hname text (List.mem_singleton.mpr hgiven.symm))

/-- What the definition says about nulls: by its type, and by its modifier. -/
def nullClauses (column : Column) : List Bool :=
  column.type.nullClauses ++ column.modifiers.nullable.toList

theorem reads_definition {definition : Sql} (hname : column.HasSilentName target)
    (hverbatim : ∀ value ∈ column.verbatim target.dialect, Silent value.shown.toList)
    (h : column.IsDefinedBy target table definition) : Reads definition.text.toList column.nullClauses := by
  obtain ⟨name, type, unsigned, comment, later, hnameSql, htype, hunsigned, hcomment, rfl⟩ := h.exists_parts
  rw [verbatim, List.forall_mem_append] at hverbatim
  have hhead : ReadsEach [name, type] column.type.nullClauses := by
    simpa using ReadsEach.cons (hname name hnameSql) (readsEach_singleton (reads_typeSql hverbatim.1 htype))
  have hnullable := (readsEach_unsignedSql hunsigned).append column.readsEach_nullableSql
  have hmodifiers := ((hnullable.append (readsEach_defaultSql hverbatim.2)).append
    column.readsEach_collationSql).append (readsEach_commentSql hcomment)
  have hparts := hhead.append hmodifiers
  simp only [List.nil_append, List.append_nil] at hparts
  exact hparts.separated gap_blank

end Column

/-! ### Calls on columns -/

/-- The call sets whether its column is nullable; Snowflake's keys are not. -/
def ColumnAction.setsNullability (dialect : Dialect) : ColumnAction → Bool
  | .nullable | .notNullable => true
  | .primary _ =>
    match dialect with
    | .ansi _ => false
    | .snowflake .. => true
  | _ => false

section

variable {dialect : Dialect}

theorem ColumnAction.type_foldl_modify (column : Column) (calls : List ColumnAction) :
    (calls.foldl (modify dialect) column).type = column.type := by
  induction calls generalizing column with
  | nil => rfl
  | cons call calls ih =>
    rw [List.foldl_cons, ih]
    cases call <;> cases dialect <;> rfl

theorem ColumnAction.isSome_nullable_modify (column : Column) (call : ColumnAction) :
    (call.modify dialect column).modifiers.nullable.isSome =
      (column.modifiers.nullable.isSome || call.setsNullability dialect) := by
  cases call <;> cases dialect <;> simp [modify, setsNullability, Column.setNullable, Column.setDefault,
    Column.setComment, Column.setUnsigned, Column.setCollation, Column.setAltered]

theorem ColumnAction.isSome_nullable_foldl_modify (column : Column) (calls : List ColumnAction) :
    (calls.foldl (modify dialect) column).modifiers.nullable.isSome =
      (column.modifiers.nullable.isSome || calls.any (setsNullability dialect)) := by
  induction calls generalizing column with
  | nil => simp
  | cons call calls ih => rw [List.foldl_cons, ih, isSome_nullable_modify, List.any_cons, Bool.or_assoc]

end

namespace Column

theorem isNotNullable_iff (column : Column) : column.isNotNullable = true ↔ false ∈ column.nullClauses := by
  rw [isNotNullable, nullClauses, ColumnType.nullClauses]
  cases column.type.isSelfKeyed <;> cases column.modifiers.nullable <;> simp

theorem length_nullClauses_le (column : Column) : column.nullClauses.length ≤ 1 ↔
    ¬ (column.type.isSelfKeyed = true ∧ column.modifiers.nullable.isSome = true) := by
  rw [nullClauses, ColumnType.nullClauses]
  cases column.type.isSelfKeyed <;> cases column.modifiers.nullable <;> simp

/-- Whatever column a definition begins with and whatever is called on it, if neither its written name nor what is
written as it was given says anything about nulls: the column counts as not nullable exactly if its definition says
that it is not. There is at most one clause on nulls in the definition exactly if not both the type is a key by
itself, and so says it already, and nullability was set as well. -/
theorem nullability_written {start column : Column} {calls : List ColumnAction} {definition : Sql}
    (hcolumn : column = calls.foldl (ColumnAction.modify target.dialect) start)
    (hname : column.HasSilentName target)
    (hverbatim : ∀ value ∈ column.verbatim target.dialect, Silent value.shown.toList)
    (h : column.IsDefinedBy target table definition) :
    let clauses := Words.nullClauses (Words.of definition.text.toList)
    (column.isNotNullable = true ↔ false ∈ clauses) ∧
    (clauses.length ≤ 1 ↔ ¬ (start.type.isSelfKeyed = true ∧
      (start.modifiers.nullable.isSome || calls.any (ColumnAction.setsNullability target.dialect)) = true)) := by
  intro clauses
  have hclauses : clauses = column.nullClauses := (reads_definition hname hverbatim h).clauses_eq
  rw [hclauses, isNotNullable_iff, length_nullClauses_le, hcolumn, ColumnAction.type_foldl_modify,
    ColumnAction.isSome_nullable_foldl_modify]
  exact ⟨Iff.rfl, Iff.rfl⟩

/-- A key on Snowflake that was nullable before, with words of clauses in quotes. -/
def quotedNulls : List ColumnAction := [
  .nullable, .defaultTo (.raw "lower('NOT NULL')"), .unsigned, .primary .null, .collate (.text "null"),
  .index .null]

theorem quotedNulls_written :
    let target : Target := { dialect := .snowflake true none }
    let table : Table := { name := .text "t" }
    let start : Column := { name := .text "not null", type := .string (.int 9) }
    let column := quotedNulls.foldl (ColumnAction.modify target.dialect) start
    ∃ definition, column.IsDefinedBy target table definition ∧
      definition.text = "\"NOT NULL\" varchar(9) not null default lower('NOT NULL') collate 'null'" ∧
      let clauses := Words.nullClauses (Words.of definition.text.toList)
      clauses = [false] ∧
      (column.isNotNullable = true ↔ false ∈ clauses) ∧
      (clauses.length ≤ 1 ↔ ¬ (start.type.isSelfKeyed = true ∧ (start.modifiers.nullable.isSome ||
        quotedNulls.any (ColumnAction.setsNullability target.dialect)) = true)) := by
  intro target table start column
  have hname : KeepQuotes [column.name] := by
    intro text htext
    have htext : Value.text text = .text "not null" := List.mem_singleton.mp htext
    obtain rfl := Value.text.inj htext
    exact Name.keepsQuotes_of_not_quoted (by decide +kernel)
  have hverbatim : ∀ value ∈ column.verbatim target.dialect, Silent value.shown.toList := by decide +kernel
  exact ⟨_, ⟨_, rfl⟩, by decide +kernel, by decide +kernel,
    @nullability_written target table start column quotedNulls _ rfl (hasSilentName_of_hookless rfl hname)
      hverbatim ⟨_, rfl⟩⟩

/-- A column that is a key by its type and was made nullable: its definition says both. -/
theorem selfKeyed_written_twice :
    let target : Target := { dialect := .snowflake true none }
    let start : Column := { name := .text "id", type := .fixed .increments }
    let column := [ColumnAction.nullable].foldl (ColumnAction.modify target.dialect) start
    column.isNotNullable = true ∧
    ∃ definition, column.IsDefinedBy target { name := .text "t" } definition ∧
      definition.text = "\"ID\" integer identity(1,1) primary key not null null" ∧
      Words.nullClauses (Words.of definition.text.toList) = [false, true] := by
  intro target start column
  exact ⟨rfl, _, ⟨_, rfl⟩, by decide +kernel, by decide +kernel⟩

end Column

end Schema

end SqlBuilder
