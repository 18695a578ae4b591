import SqlBuilder.Proofs.Schema.DefaultNames

/-!
Different columns under one default name. Main statement: constraints without a name have different names if the
joined names of their columns are different, by more than the case and the quotes that get lost.
-/

namespace SqlBuilder

open Name

namespace Schema

/-- The case that joined names have in the name that is made up of them. -/
def cased (atom joined : List Char) : List Char :=
  if isQuotedChars atom then joined else Text.lowerChars joined

/-- Joined names that can be told apart in the name of a constraint. -/
inductive ToldApart (dialect : Dialect) (atom joined joined' : List Char) : Prop
  /-- In a quoted name that is not taken for one with an alias, by anything. -/
  | quoted : isQuotedChars atom = true → cutAlias? (unquoteChars atom) = none → joined ≠ joined' →
      ToldApart dialect atom joined joined'
  /-- Without dots outside quotes, by more than their case. -/
  | undotted : isQuotedChars atom = false → DotsQuoted (quotedAfter false atom) joined →
      DotsQuoted (quotedAfter false atom) joined' →
      dialect.caseless (Text.lowerChars joined) ≠ dialect.caseless (Text.lowerChars joined') →
      ToldApart dialect atom joined joined'
  /-- In any case by more than their case and their quotes. -/
  | reduced : dialect.reduced (cased atom joined) ≠ dialect.reduced (cased atom joined') →
      ToldApart dialect atom joined joined'

theorem cutAlias?_joined {columns : List String} (h : ∀ column ∈ columns, cutAlias? column.toList = none) :
    cutAlias? (joined columns) = none := by
  rw [joined, String.toList_intercalate]
  induction columns with
  | nil => rfl
  | cons column columns ih =>
    obtain ⟨hcolumn, hrest⟩ := List.forall_mem_cons.mp h
    cases columns with
    | nil => simpa using hcolumn
    | cons next columns =>
      rw [List.map_cons, List.map_cons, List.intercalate_cons_cons, List.append_assoc]
      change cutAlias? (column.toList ++ '_' :: "_".toList.intercalate ((next :: columns).map String.toList)) = none
      rw [cutAlias?_append_underscore_of_none hcolumn, ih hrest, Option.map_none]

theorem IsSuffix.ends {suffix : String} (h : IsSuffix suffix) : Reference.Ends suffix.toList :=
  Reference.ends_of_unmarked fun _ hc => Bool.eq_false_iff.mpr fun hmark => h.not_mem hmark hc

theorem IsSuffix.ends_lowerChars {suffix : String} (h : IsSuffix suffix) {joined : List Char}
    (hjoined : cutAlias? joined = none) : Reference.Ends (Text.lowerChars joined ++ '_' :: suffix.toList) :=
  h.ends.joined (cutAlias?_lowerFrom hjoined false)

theorem IsSuffix.dotsQuoted {suffix : String} (h : IsSuffix suffix) {quoted : Bool} {cs : List Char}
    (hcs : DotsQuoted quoted cs) : DotsQuoted quoted (cs ++ '_' :: suffix.toList) := by
  refine hcs.append (dotsQuoted_of_not_mem (fun hdot => ?_) _)
  obtain hdot | hdot := List.mem_cons.mp hdot
  · cases hdot
  · exact h.not_mem (by decide) hdot

section

variable {dialect : Dialect} {atom joined joined' : List Char} {suffix : String} (hsuffix : IsSuffix suffix)
  (hjoined : cutAlias? joined = none) (hjoined' : cutAlias? joined' = none)
include hsuffix hjoined hjoined'

theorem spelling_madeUp_ne_of_quoted (hquoted : isQuotedChars atom = true)
    (hatom : cutAlias? (unquoteChars atom) = none) (hne : joined ≠ joined') :
    dialect.spelling (madeUp atom joined suffix) ≠ dialect.spelling (madeUp atom joined' suffix) := by
  have hkept : ∀ {joined : List Char}, cutAlias? joined = none →
      dialect.spelling (madeUp atom joined suffix) =
        encloseChars (unquoteChars atom ++ '_' :: (joined ++ '_' :: suffix.toList)) := by
    intro joined hjoined
    have hends := Reference.Ends.joined hatom (hsuffix.ends.joined hjoined)
    rw [madeUp, if_pos hquoted, Dialect.spelling_encloseChars (cutAlias?_eq_none_iff.mp hends.unaliased)]
  rw [hkept hjoined, hkept hjoined']
  intro h
  obtain ⟨-, hrest⟩ := List.cons.inj (List.append_cancel_left (encloseChars_inj.mp h))
  exact hne (List.append_cancel_right hrest)

theorem reduced_of_spelling_madeUp_eq
    (h : dialect.spelling (madeUp atom joined suffix) = dialect.spelling (madeUp atom joined' suffix)) :
    dialect.reduced (cased atom joined) = dialect.reduced (cased atom joined') := by
  have hcancel : ∀ {xs ys : List Char}, dialect.reduced (xs ++ '_' :: suffix.toList) =
      dialect.reduced (ys ++ '_' :: suffix.toList) → dialect.reduced xs = dialect.reduced ys := by
    intro xs ys hreduced
    rw [Dialect.reduced_append, Dialect.reduced_append] at hreduced
    exact List.append_cancel_right hreduced
  cases hquoted : isQuotedChars atom with
  | false =>
    rw [madeUp_of_not_quoted hquoted joined hsuffix, madeUp_of_not_quoted hquoted joined' hsuffix] at h
    rw [cased, cased, if_neg (by simp [hquoted]), if_neg (by simp [hquoted])]
    exact hcancel (Dialect.reduced_of_spelling_joined_eq (hsuffix.ends_lowerChars hjoined)
      (hsuffix.ends_lowerChars hjoined') h)
  | true =>
    -- The quote in front goes with the table's part of the name, the one at the end with the rest.
    have hparts : ∀ joined, madeUp atom joined suffix = (quoteMark :: Text.double quoteMark (unquoteChars atom)) ++
        '_' :: (Text.double quoteMark (joined ++ '_' :: suffix.toList) ++ [quoteMark]) := by
      intro joined
      rw [madeUp, if_pos hquoted, encloseChars, Text.double, List.flatMap_append, ← Text.double, ← Text.double,
        Text.double_cons_of_ne (by decide)]
      simp
    have hreduced : ∀ cs, dialect.reduced (Text.double quoteMark cs ++ [quoteMark]) = dialect.reduced cs := by
      intro cs
      rw [← Dialect.reduced_encloseChars cs, encloseChars, List.cons_append, Dialect.reduced_quoteMark_cons]
    rw [hparts, hparts] at h
    rw [cased, cased, if_pos hquoted, if_pos hquoted]
    have hsame := Dialect.reduced_of_spelling_joined_eq (Reference.ends_double (hsuffix.ends.joined hjoined))
      (Reference.ends_double (hsuffix.ends.joined hjoined')) h
    rw [hreduced, hreduced] at hsame
    exact hcancel hsame

theorem spelling_madeUp_ne (h : ToldApart dialect atom joined joined') :
    dialect.spelling (madeUp atom joined suffix) ≠ dialect.spelling (madeUp atom joined' suffix) := by
  cases h with
  | quoted hquoted hatom hne => exact spelling_madeUp_ne_of_quoted hsuffix hjoined hjoined' hquoted hatom hne
  | undotted hquoted hdots hdots' hne =>
    intro h
    rw [madeUp_of_not_quoted hquoted joined hsuffix, madeUp_of_not_quoted hquoted joined' hsuffix] at h
    have hdotted : ∀ {joined : List Char}, DotsQuoted (quotedAfter false atom) joined →
        DotsQuoted (quotedAfter false (Text.lowerChars atom)) (Text.lowerChars joined ++ '_' :: suffix.toList) := by
      intro joined hdots
      rw [Text.lowerChars, quotedAfter_lowerFrom]
      exact hsuffix.dotsQuoted (dotsQuoted_lowerFrom hdots false)
    have hlast : ∀ joined, (Text.lowerChars joined ++ '_' :: suffix.toList).getLast? ≠ some quoteMark :=
      fun _ => getLast?_append_underscore hsuffix.getLast?
    have hcaseless := Dialect.caseless_of_spelling_joined_eq (hsuffix.ends_lowerChars hjoined)
      (hsuffix.ends_lowerChars hjoined') (hdotted hdots) (hdotted hdots') (hlast joined) (hlast joined') h
    rw [Dialect.caseless_append, Dialect.caseless_append] at hcaseless
    exact hne (List.append_cancel_right hcaseless)
  | reduced hne => exact fun h => hne (reduced_of_spelling_madeUp_eq hsuffix hjoined hjoined' h)

end

/-- The constraints that two changes add have different names. -/
def NamedApart (target : Target) (table : Table) (add add' : TableChange) : Prop :=
  ∃ name name', NamesConstraint target table add name ∧ NamesConstraint target table add' name' ∧
    name.text ≠ name'.text

/-- Whatever the table is, two constraints on columns whose joined names can be told apart have different default
names. -/
theorem default_names_differ (folds strict : Bool) (context : Value) {table : Table} {reference : String}
    (hname : table.name = .text reference) {columns columns' : List String}
    (hcolumns : ∀ column ∈ columns, cutAlias? column.toList = none)
    (hcolumns' : ∀ column ∈ columns', cutAlias? column.toList = none)
    (hapart : ToldApart (.snowflake folds none) (lastAtom reference) (joined columns) (joined columns')) :
    let target : Target := ⟨.snowflake folds none, strict, context⟩
    NamedApart target table (.unique (columns.map .text) .null) (.unique (columns'.map .text) .null) ∧
      ∀ key key', IsUnnamed key columns → IsUnnamed key' columns' →
        NamedApart target table (.foreign key) (.foreign key') := by
  intro target
  have hookless : target.dialect.Hookless := Dialect.hookless_snowflake folds
  have hne : ∀ {suffix : String}, IsSuffix suffix →
      (defaultName target.dialect reference columns suffix).text ≠
        (defaultName target.dialect reference columns' suffix).text := by
    intro suffix hsuffix hsame
    rw [← String.toList_inj, toList_text_defaultName, toList_text_defaultName] at hsame
    exact spelling_madeUp_ne hsuffix (cutAlias?_joined hcolumns) (cutAlias?_joined hcolumns') hapart hsame
  constructor
  · exact ⟨_, _, namesConstraint_unique hookless hname columns, namesConstraint_unique hookless hname columns',
      hne isSuffix_unique⟩
  · intro key key' hkey hkey'
    exact ⟨_, _, namesConstraint_foreign hookless hname columns hkey,
      namesConstraint_foreign hookless hname columns' hkey', hne isSuffix_foreign⟩

theorem quoted_column_named_apart :
    let target : Target := { dialect := .snowflake true none }
    let table : Table := { name := .text "t" }
    let key : ForeignKey := { columns := [.text "\"a\""], table := .text "b", references := [.text "c"] }
    let key' : ForeignKey := { columns := [.text "a"], table := .text "b", references := [.text "c"] }
    table.name = .text "t" ∧ (∀ column ∈ ["\"a\""], cutAlias? column.toList = none) ∧
      (∀ column ∈ ["a"], cutAlias? column.toList = none) ∧
      ToldApart target.dialect (lastAtom "t") (joined ["\"a\""]) (joined ["a"]) ∧
      IsUnnamed key ["\"a\""] ∧ IsUnnamed key' ["a"] ∧
      NamedApart target table (.unique [.text "\"a\""] .null) (.unique [.text "a"] .null) ∧
      NamedApart target table (.foreign key) (.foreign key') := by
  intro target table key key'
  have hcolumns : ∀ column ∈ ["\"a\""], cutAlias? column.toList = none := by decide
  have hcolumns' : ∀ column ∈ ["a"], cutAlias? column.toList = none := by decide
  have hapart : ToldApart target.dialect (lastAtom "t") (joined ["\"a\""]) (joined ["a"]) :=
    .undotted (by decide) (dotsQuoted_of_not_mem (by decide) _) (dotsQuoted_of_not_mem (by decide) _)
      (by decide +kernel)
  have hkey : IsUnnamed key ["\"a\""] := ⟨rfl, ⟨"b", rfl⟩, ⟨["c"], rfl⟩, rfl⟩
  have hkey' : IsUnnamed key' ["a"] := ⟨rfl, ⟨"b", rfl⟩, ⟨["c"], rfl⟩, rfl⟩
  obtain ⟨hunique, hforeign⟩ := default_names_differ true false .null (rfl : table.name = _) hcolumns hcolumns' hapart
  exact ⟨rfl, hcolumns, hcolumns', hapart, hkey, hkey', hunique, hforeign key key' hkey hkey'⟩

/-- An underscore in a name is not told from one between names. -/
theorem joined_columns_share_name :
    let target : Target := { dialect := .snowflake true none }
    let table : Table := { name := .text "t" }
    (Table.columnize target [.text "a_b"]).outcome.map Sql.text ≠
        (Table.columnize target [.text "a", .text "b"]).outcome.map Sql.text ∧
      ¬ NamedApart target table (.unique [.text "a_b"] .null) (.unique [.text "a", .text "b"] .null) := by
  intro target table
  refine ⟨by decide +kernel, ?_⟩
  rintro ⟨name, name', hnamed, hnamed', hne⟩
  have hookless : target.dialect.Hookless := Dialect.hookless_snowflake true
  rw [hnamed.eq (namesConstraint_unique hookless rfl ["a_b"]),
    hnamed'.eq (namesConstraint_unique hookless rfl ["a", "b"])] at hne
  exact hne rfl

end Schema

end SqlBuilder
