import SqlBuilder.Proofs.Dialect.Written
import SqlBuilder.Schema.ColumnSql
import SqlBuilder.Schema.Table

/-!
Constants, types and modifiers as definitions of columns write them. Main statement: whatever texts they
are made of, they leave no quote open and hold no placeholder outside quotes, if there are only integers
among the values that are written as they were given.
-/

namespace SqlBuilder

open Placeholder Sql

theorem Placeholder.isPlain_append {first second : String} (hfirst : first.toList.all isPlain = true)
    (hsecond : second.toList.all isPlain = true) : (first ++ second).toList.all isPlain = true := by
  rw [String.toList_append, List.all_append, hfirst, hsecond]
  rfl

/-! ### Literals -/

theorem Schema.calm_quoteLiteral (s : String) : Calm (Schema.quoteLiteral s).toList := by
  rw [Schema.quoteLiteral, String.toList_ofList]
  exact calm_quoted (.inl rfl) s.toList

namespace Schema

open Recorded

/-! ### Types -/

/-- Truth values count as integers, too. -/
def IsIntegral (value : Value) : Prop :=
  value.integral?.isSome = true

theorem isPlain_shown {value : Value} (h : IsIntegral value) : value.shown.toList.all isPlain = true := by
  cases value with
  | bool b => cases b <;> decide
  | int n => exact Value.isPlain_intText n
  | _ => cases h

theorem quiet_givenSql {value : Value} (h : IsIntegral value) : Quiet (givenSql value) := by
  intro piece hpiece
  obtain rfl := List.mem_singleton.mp hpiece
  exact ⟨rfl, calm_of_plain (isPlain_shown h)⟩

theorem quiet_literalSql (s : String) : Quiet (literalSql s) := by
  intro piece hpiece
  obtain rfl := List.mem_singleton.mp hpiece
  exact ⟨rfl, calm_quoteLiteral s⟩

theorem quiet_withParameters {keyword : String} (hkeyword : keyword.toList.all isPlain = true)
    {parameters : List Sql} (h : ∀ parameter ∈ parameters, Quiet parameter) :
    Quiet (withParameters keyword parameters) := by
  have hopen : (keyword ++ "(").toList.all isPlain = true := isPlain_append hkeyword (by decide)
  exact ((quiet_code hopen).append (quiet_separated (by decide) h)).append (quiet_code (by decide))

/-- The parameters of a type that are written as they were given. -/
def ColumnType.verbatim (dialect : Dialect) (type : ColumnType) : List Value :=
  match dialect, type with
  | _, .string length => [length].filter Value.isTrue
  | _, .bit length => [length].filter Value.isTrue
  | .ansi _, .binary length => [length].filter Value.isTrue
  | .ansi _, .datetime _ precision => [precision].filter Value.isTrue
  | .ansi _, .timestamp _ precision => [precision].filter Value.isTrue
  | .snowflake .., .datetime _ precision => [precision].filter (!·.isNull)
  | .snowflake .., .timestamp _ precision => [precision].filter (!·.isNull)
  | _, .specific sql => [sql]
  | _, _ => []

theorem isIntegral_of_filter {p : Value → Bool} {value : Value}
    (h : ∀ v ∈ [value].filter p, IsIntegral v) (hvalue : p value = true) : IsIntegral value :=
  h value (List.mem_filter.mpr ⟨List.mem_singleton.mpr rfl, hvalue⟩)

/-- What types are written with, but for those without parameters. -/
def typeKeywords : List String := [
  "varchar", "float", "double", "decimal", "bit", "varbinary", "blob", "datetime", "timestamp", "timestamp_tz",
  "enum", "set", "char", "real", "double precision", "varchar(max)", "varchar(255)"]

/-- A parameter of a type: a number, a constant, or one of the values that are written as they were given. -/
inductive IsParameter (values : List Value) : Sql → Prop
  | number (n : Int) : IsParameter values (code (Value.intText n))
  | literal (s : String) : IsParameter values (literalSql s)
  | given {value : Value} : value ∈ values → IsParameter values (givenSql value)

/-- The ways in which a dialect writes a type. -/
inductive ColumnType.IsWritten (values : List Value) : ColumnType → Sql → Prop
  | fixed {type : FixedType} {sql : String} : sql = type.ansi ∨ sql = type.snowflake →
      IsWritten values (.fixed type) (code sql)
  | keyword {type : ColumnType} {keyword : String} : type.isSelfKeyed = false → keyword ∈ typeKeywords →
      IsWritten values type (code keyword)
  | applied {type : ColumnType} {keyword : String} {parameters : List Sql} : type.isSelfKeyed = false →
      keyword ∈ typeKeywords → (∀ parameter ∈ parameters, IsParameter values parameter) →
      IsWritten values type (withParameters keyword parameters)
  | given {type : ColumnType} {value : Value} : type.isSelfKeyed = false → value ∈ values →
      IsWritten values type (givenSql value)

theorem exists_number {fallback : Int} {value : Value} {sql : Sql} (h : numberSql fallback value = .ok sql) :
    ∃ n, sql = code (Value.intText n) := by
  unfold numberSql at h
  split at h
  · exact ⟨fallback, (Except.ok.inj h).symm⟩
  · obtain ⟨n, -, h⟩ := except_bind_eq_ok.mp h
    exact ⟨n, (Except.ok.inj h).symm⟩

section

variable {values : List Value} {type : ColumnType} {keyword : String}

theorem isWritten_parameter (htype : type.isSelfKeyed = false) (hkeyword : keyword ∈ typeKeywords) {parameter : Sql}
    (h : IsParameter values parameter) : type.IsWritten values (withParameters keyword [parameter]) :=
  .applied htype hkeyword fun part hpart => by rwa [List.mem_singleton.mp hpart]

theorem isWritten_precision (htype : type.isSelfKeyed = false) (hkeyword : keyword ∈ typeKeywords)
    {precision scale : Value} {sql : Sql} (h : withPrecision keyword precision scale = .ok sql) :
    type.IsWritten values sql := by
  obtain ⟨first, hfirst, h⟩ := except_bind_eq_ok.mp h
  obtain ⟨second, hsecond, h⟩ := except_bind_eq_ok.mp h
  obtain rfl := Except.ok.inj h
  obtain ⟨m, rfl⟩ := exists_number hfirst
  obtain ⟨n, rfl⟩ := exists_number hsecond
  exact .applied htype hkeyword (by simpa using ⟨IsParameter.number m, IsParameter.number n⟩)

theorem isWritten_enum (htype : type.isSelfKeyed = false) (hkeyword : keyword ∈ typeKeywords) {constants : Value}
    {sql : Sql} (h : enumSql keyword constants = .ok sql) : type.IsWritten values sql := by
  unfold enumSql at h
  split at h
  · cases h
  · obtain rfl := Except.ok.inj h
    refine .applied htype hkeyword fun parameter hparameter => ?_
    obtain ⟨value, -, rfl⟩ := List.mem_map.mp hparameter
    exact .literal value.shown

theorem isParameter_or (fallback : Int) {value : Value} (h : ∀ v ∈ [value].filter Value.isTrue, v ∈ values) :
    IsParameter values (if value.isTrue then givenSql value else code (Value.intText fallback)) := by
  split
  · next hvalue => exact .given (h value (by simp [hvalue]))
  · exact .number fallback

theorem isWritten_optional (htype : type.isSelfKeyed = false) (hkeyword : keyword ∈ typeKeywords) {plain : String}
    (hplain : plain ∈ typeKeywords) {value : Value} (h : ∀ v ∈ [value].filter Value.isTrue, v ∈ values) :
    type.IsWritten values (if value.isTrue then withParameters keyword [givenSql value] else code plain) := by
  split
  · next hvalue => exact isWritten_parameter htype hkeyword (.given (h value (by simp [hvalue])))
  · exact .keyword htype hplain

end

theorem isWritten_ansiType {supportsReturning : Bool} {type : ColumnType} {sql : Sql}
    (h : ansiType type = .ok sql) : type.IsWritten (type.verbatim (.ansi supportsReturning)) sql := by
  cases type with
  | fixed type =>
    obtain rfl := Except.ok.inj h
    exact .fixed (.inl rfl)
  | string length =>
    obtain rfl := Except.ok.inj h
    exact isWritten_parameter rfl (by decide) (isParameter_or 255 fun _ hv => hv)
  | floating precision scale | decimal precision scale => exact isWritten_precision rfl (by decide) h
  | double precision scale =>
    cases precision with
    | null =>
      obtain rfl := Except.ok.inj h
      exact .keyword rfl (by decide)
    | _ => exact isWritten_precision rfl (by decide) h
  | bit length | datetime _ length | timestamp _ length | binary length =>
    obtain rfl := Except.ok.inj h
    exact isWritten_optional rfl (by decide) (by decide) fun _ hv => hv
  | enum values | set values => exact isWritten_enum rfl (by decide) h
  | specific sql =>
    obtain rfl := Except.ok.inj h
    exact .given rfl (List.mem_singleton.mpr rfl)
  | unknown name => cases h
  | misused => cases h

theorem isWritten_snowflakeTimestamp {values : List Value} {type : ColumnType} (htype : type.isSelfKeyed = false)
    {zoned precision : Value} (h : ∀ v ∈ [precision].filter (!·.isNull), v ∈ values) :
    type.IsWritten values (snowflakeTimestamp zoned precision) := by
  have hkeyword : (if zoned.isTrue then "timestamp_tz" else "timestamp") ∈ typeKeywords := by
    split <;> decide
  cases precision with
  | null => exact .keyword htype hkeyword
  | _ => exact isWritten_parameter htype hkeyword (.given (h _ (by simp [Value.isNull])))

theorem isWritten_snowflakeType {folds : Bool} {hook : Option Hook} {type : ColumnType} {sql : Sql}
    (h : snowflakeType type = .ok sql) : type.IsWritten (type.verbatim (.snowflake folds hook)) sql := by
  cases type with
  | fixed type =>
    obtain rfl := Except.ok.inj h
    exact .fixed (.inr rfl)
  | string length =>
    obtain rfl := Except.ok.inj h
    exact isWritten_parameter rfl (by decide) (isParameter_or 255 fun _ hv => hv)
  | floating precision scale | double precision scale | decimal precision scale =>
    cases precision with
    | null =>
      obtain rfl := Except.ok.inj h
      exact .keyword rfl (by decide)
    | _ => exact isWritten_precision rfl (by decide) h
  | bit length =>
    obtain rfl := Except.ok.inj h
    exact isWritten_parameter rfl (by decide) (isParameter_or 1 fun _ hv => hv)
  | datetime zoned precision | timestamp zoned precision =>
    obtain rfl := Except.ok.inj h
    exact isWritten_snowflakeTimestamp rfl fun _ hv => hv
  | binary _ | enum _ | set _ =>
    obtain rfl := Except.ok.inj h
    exact .keyword rfl (by decide)
  | specific sql =>
    obtain rfl := Except.ok.inj h
    exact .given rfl (List.mem_singleton.mpr rfl)
  | unknown name => cases h
  | misused => cases h

/-- A type is written as a text of its own, as a keyword, perhaps with parameters, or as it was given. -/
theorem isWritten_typeSql {dialect : Dialect} {column : Column} {sql : Sql}
    (h : (column.typeSql dialect).outcome = .ok sql) :
    column.type.IsWritten (column.type.verbatim dialect) sql := by
  cases dialect with
  | ansi supportsReturning => exact isWritten_ansiType h
  | snowflake folds hook =>
    obtain ⟨-, -, h⟩ := bind_outcome_eq_ok.mp h
    exact isWritten_snowflakeType h

theorem isPlain_fixedType (type : FixedType) :
    type.ansi.toList.all isPlain = true ∧ type.snowflake.toList.all isPlain = true := by
  cases type <;> decide +kernel

theorem isPlain_typeKeyword : ∀ keyword ∈ typeKeywords, keyword.toList.all isPlain = true := by
  decide +kernel

theorem quiet_parameter {values : List Value} (hvalues : ∀ value ∈ values, IsIntegral value) {sql : Sql}
    (h : IsParameter values sql) : Quiet sql := by
  cases h with
  | number n => exact quiet_code (Value.isPlain_intText n)
  | literal s => exact quiet_literalSql s
  | given hvalue => exact quiet_givenSql (hvalues _ hvalue)

theorem quiet_typeSql {dialect : Dialect} {column : Column} {sql : Sql}
    (hverbatim : ∀ value ∈ column.type.verbatim dialect, IsIntegral value)
    (h : (column.typeSql dialect).outcome = .ok sql) : Quiet sql := by
  have hwritten := isWritten_typeSql h
  generalize column.type = type at hwritten hverbatim
  cases hwritten with
  | fixed hsql =>
    rcases hsql with rfl | rfl
    · exact quiet_code (isPlain_fixedType _).1
    · exact quiet_code (isPlain_fixedType _).2
  | keyword _ hkeyword => exact quiet_code (isPlain_typeKeyword _ hkeyword)
  | applied _ hkeyword hparameters =>
    exact quiet_withParameters (isPlain_typeKeyword _ hkeyword) fun parameter hparameter =>
      quiet_parameter hverbatim (hparameters parameter hparameter)
  | given _ hvalue => exact quiet_givenSql (hverbatim _ hvalue)

/-! ### Modifiers -/

namespace Column

/-- A default that is a fragment of SQL, other than the one of the library. -/
def fragments (dialect : Dialect) (column : Column) : List Value :=
  match column.modifiers.default with
  | some (.raw sql) => if sql = currentTimestamp dialect then [] else [.raw sql]
  | _ => []

/-- What is written of a column as it was given. -/
def verbatim (dialect : Dialect) (column : Column) : List Value :=
  column.type.verbatim dialect ++ column.fragments dialect

theorem isPlain_currentTimestamp (dialect : Dialect) :
    (currentTimestamp dialect).toList.all isPlain = true := by
  have hansi : "CURRENT_TIMESTAMP".toList.all isPlain = true := by decide
  have hsnowflake : "current_timestamp()".toList.all isPlain = true := by decide
  cases dialect with
  | ansi supportsReturning => exact hansi
  | snowflake folds hook => exact hsnowflake

theorem quiet_default {dialect : Dialect} {column : Column} {value : Value}
    (hfragments : ∀ value ∈ column.fragments dialect, IsIntegral value)
    (hvalue : column.modifiers.default = some value) : Quiet (defaultValueSql value) := by
  cases value with
  | raw sql =>
    by_cases hown : sql = currentTimestamp dialect
    · intro piece hpiece
      obtain rfl := List.mem_singleton.mp hpiece
      exact ⟨rfl, calm_of_plain (by rw [Piece.text, hown, isPlain_currentTimestamp])⟩
    · have hraw : IsIntegral (.raw sql) := hfragments (.raw sql) (by simp [fragments, hvalue, hown])
      cases hraw
  | null => exact quiet_code (by decide)
  | bool b => exact quiet_code (by cases b <;> decide)
  | int n => exact quiet_code (Value.isPlain_intText n)
  | float x => exact quiet_code (isPlain_of_isNumeral x.isNumeral_text)
  | _ => exact quiet_literalSql _

theorem quiet_defaultSql {dialect : Dialect} {column : Column}
    (hfragments : ∀ value ∈ column.fragments dialect, IsIntegral value) :
    ∀ part ∈ column.defaultSql, Quiet part := by
  rw [defaultSql]
  cases hdefault : column.modifiers.default with
  | none => simp
  | some value =>
    have hword : Quiet (code "default ") := quiet_code (by decide)
    simpa using hword.append (quiet_default hfragments hdefault)

theorem quiet_collationSql (column : Column) : ∀ part ∈ column.collationSql, Quiet part := by
  rw [collationSql]
  cases column.modifiers.collation with
  | none => simp
  | some collation =>
    have hword : Quiet (code "collate ") := quiet_code (by decide)
    simpa using hword.append (quiet_literalSql collation.shown)

theorem quiet_nullableSql (column : Column) : ∀ part ∈ column.nullableSql, Quiet part := by
  have hnull : Quiet (code "null") := quiet_code (by decide)
  have hnotNull : Quiet (code "not null") := quiet_code (by decide)
  rw [nullableSql]
  split
  · simp
  · simpa using hnull
  · simpa using hnotNull

theorem parts_of_unsignedSql {dialect : Dialect} {column : Column} {parts : List Sql}
    (h : (column.unsignedSql dialect).outcome = .ok parts) : parts = [] ∨ parts = [code "unsigned"] := by
  unfold unsignedSql at h
  split at h
  · cases dialect with
    | ansi supportsReturning => exact .inr (Except.ok.inj h).symm
    | snowflake folds hook =>
      obtain ⟨-, -, h⟩ := bind_outcome_eq_ok.mp h
      exact .inl (Except.ok.inj h).symm
  · exact .inl (Except.ok.inj h).symm

theorem quiet_unsignedSql {dialect : Dialect} {column : Column} {parts : List Sql}
    (h : (column.unsignedSql dialect).outcome = .ok parts) : ∀ part ∈ parts, Quiet part := by
  have hword : Quiet (code "unsigned") := quiet_code (by decide)
  rcases parts_of_unsignedSql h with rfl | rfl
  · simp
  · simpa using hword

/-- A comment stands inside the definition of a column, or later. -/
theorem parts_of_commentSql {dialect : Dialect} {context table : Value} {column : Column}
    {parts later : List Sql} (h : (column.commentSql dialect context table).outcome = .ok (parts, later)) :
    parts = [] ∨ ∃ comment, parts = [code "comment " ++ literalSql comment] := by
  unfold commentSql at h
  split at h
  · exact .inl (Prod.mk.inj (Except.ok.inj h)).1.symm
  · exact .inr ⟨_, (Prod.mk.inj (Except.ok.inj h)).1.symm⟩
  · obtain ⟨sql, -, h⟩ := bind_outcome_eq_ok.mp h
    exact .inl (Prod.mk.inj (Except.ok.inj h)).1.symm

theorem quiet_commentSql {dialect : Dialect} {context table : Value} {column : Column}
    {parts later : List Sql} (h : (column.commentSql dialect context table).outcome = .ok (parts, later)) :
    ∀ part ∈ parts, Quiet part := by
  have hword : Quiet (code "comment ") := quiet_code (by decide)
  rcases parts_of_commentSql h with rfl | ⟨comment, rfl⟩
  · simp
  · simpa using hword.append (quiet_literalSql comment)

theorem quiet_commentValueSql (comment : Value) : Quiet (commentValueSql comment) := by
  rw [commentValueSql]
  split
  · exact quiet_literalSql comment.shown
  · exact quiet_code (by decide)

end Column

end Schema

end SqlBuilder
