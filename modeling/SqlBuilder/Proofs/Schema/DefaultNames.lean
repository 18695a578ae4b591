import SqlBuilder.Proofs.Dialect.Joining
import SqlBuilder.Proofs.Name.Lowering
import SqlBuilder.Proofs.Schema.Catalog
import SqlBuilder.Proofs.Text.Patterns
import SqlBuilder.Schema.TableSql

/-!
Constraints that are given no name. Main statement: the name that is made up for a constraint is made up again when
the constraint is dropped, in whatever case the table is referred to.
-/

namespace SqlBuilder

open Name Recorded

namespace Schema

/-! ### Names in statements -/

/-- What a statement has before and after the name of the constraint that it adds or drops. -/
def aroundName (target : Target) (table : Table) : TableChange → Recorded (Sql × Sql)
  | .unique columns _ => do
    let tableName ← table.nameSql target
    let columns ← Table.columnize target columns
    return (Table.alterHead tableName ++ Sql.code " add constraint ",
      Sql.code " unique (" ++ columns ++ Sql.code ")")
  | .foreign key => do
    let tableName ← table.nameSql target
    let columns ← Table.columnize target key.columns
    let referenced ← Table.wrap target key.table
    let references ← Table.columnize target key.references
    return (Table.alterHead tableName ++ Sql.code " add constraint ",
      Sql.code " foreign key (" ++ columns ++ Sql.code ") references " ++ referenced ++ Sql.code " (" ++ references ++
        Sql.code ")" ++ Table.onEvent "delete" key.onDelete ++ Table.onEvent "update" key.onUpdate)
  | .dropUnique _ _ => return (Table.alterHead (← table.nameSql target) ++ Sql.code " drop constraint ", [])
  | .dropForeign _ _ => return (Table.alterHead (← table.nameSql target) ++ Sql.code " drop constraint ", [])
  | _ => .fail .wrongType

/-- The one statement of a change adds or drops the constraint of this name. -/
def NamesConstraint (target : Target) (table : Table) (change : TableChange) (name : Sql) : Prop :=
  ∃ before after, (aroundName target table change).outcome = .ok (before, after) ∧
    (table.changeStatements target change).outcome = .ok [before ++ name ++ after]

theorem NamesConstraint.eq {target : Target} {table : Table} {change : TableChange} {name name' : Sql}
    (h : NamesConstraint target table change name) (h' : NamesConstraint target table change name') :
    name = name' := by
  obtain ⟨before, after, haround, hchange⟩ := h
  obtain ⟨before', after', haround', hchange'⟩ := h'
  obtain ⟨rfl, rfl⟩ := Prod.mk.inj (Except.ok.inj (haround.symm.trans haround'))
  have hsame := List.singleton_inj.mp (Except.ok.inj (hchange.symm.trans hchange'))
  exact List.append_cancel_left (List.append_cancel_right hsame)

/-! ### Names that are made up -/

/-- The last atom of a reference as it stands, of which names are made up. -/
def lastAtom (reference : String) : List Char :=
  (splitAtoms false reference.toList).getLast?.getD []

/-- The names of the columns with underscores between them. -/
def joined (columns : List String) : List Char :=
  (String.intercalate "_" columns).toList

/-- A quoted table keeps its case in the name, which is quoted, too; otherwise all is put in lower case. -/
def madeUp (atom joined : List Char) (suffix : String) : List Char :=
  let name := unquoteChars atom ++ '_' :: (joined ++ '_' :: suffix.toList)
  if isQuotedChars atom then encloseChars name else Text.lowerChars name

/-- A text at the end of names that tells what they are of: in lower case, with no blanks, dots or quotes. -/
structure IsSuffix (suffix : String) : Prop where
  unmarked : suffix.toList.all (!Text.isMark ·) = true
  lowered : Text.lowerChars suffix.toList = suffix.toList

theorem isSuffix_unique : IsSuffix "unique" := ⟨by decide, by decide⟩

theorem isSuffix_foreign : IsSuffix "foreign" := ⟨by decide, by decide⟩

theorem IsSuffix.not_mem {suffix : String} (h : IsSuffix suffix) {mark : Char} (hmark : Text.isMark mark = true) :
    mark ∉ suffix.toList := by
  intro hmem
  have hunmarked := List.all_eq_true.mp h.unmarked mark hmem
  simp [hmark] at hunmarked

theorem IsSuffix.getLast? {suffix : String} (h : IsSuffix suffix) : suffix.toList.getLast? ≠ some quoteMark :=
  fun hlast => h.not_mem (by decide) (List.mem_of_getLast? hlast)

theorem lastAtomOf_text (reference : String) :
    lastAtomOf (.text reference) = .ok (String.ofList (lastAtom reference)) := by
  have hlast : ((splitAtoms false reference.toList).map String.ofList).getLast?.getD "" =
      String.ofList (lastAtom reference) := by
    rw [List.getLast?_map, lastAtom]
    cases (splitAtoms false reference.toList).getLast? <;> rfl
  rw [lastAtomOf, atomsOf, ← hlast]
  rfl

theorem joinedNames_text (columns : List String) :
    Table.joinedNames (columns.map .text) = .ok (String.intercalate "_" columns) := by
  have htexts : (columns.map Value.text).mapM (fun column => column.text?.elim (.error Error.wrongType) Except.ok) =
      .ok columns := by
    rw [except_mapM_eq_ok]
    induction columns with
    | nil => exact .nil
    | cons column columns ih => exact .cons rfl ih
  rw [Table.joinedNames, htexts]
  rfl

theorem indexName_text {table : Table} {reference : String} (hname : table.name = .text reference)
    (columns : List String) {suffix : String} (hsuffix : IsSuffix suffix) :
    table.indexName (columns.map .text) suffix =
      .ok (String.ofList (madeUp (lastAtom reference) (joined columns) suffix)) := by
  have hlist : (unquote (String.ofList (lastAtom reference)) ++ "_" ++ String.intercalate "_" columns ++ "_" ++
      suffix).toList = unquoteChars (lastAtom reference) ++ '_' :: (joined columns ++ '_' :: suffix.toList) := by
    simp [unquote, joined]
  have hplain : isQuotedChars (unquoteChars (lastAtom reference) ++ '_' :: (joined columns ++ '_' :: suffix.toList)) =
      false := isQuotedChars_append_underscore (getLast?_append_underscore hsuffix.getLast?)
  have hstar : unquoteChars (lastAtom reference) ++ '_' :: (joined columns ++ '_' :: suffix.toList) ≠ star := by
    intro hstar
    have hlength := congrArg List.length hstar
    simp [Name.star] at hlength
    omega
  rw [Table.indexName, hname, lastAtomOf_text, joinedNames_text]
  change Except.ok _ = _
  rw [isQuoted, String.toList_ofList]
  cases hquoted : isQuotedChars (lastAtom reference) with
  | true =>
    rw [if_pos rfl, Table.derivedName, isQuoted, String.toList_ofList, if_pos hquoted, quote, hlist, quoteChars,
      if_neg (by simp [hstar, hplain]), madeUp, if_pos hquoted]
  | false =>
    rw [if_neg Bool.false_ne_true, Text.lower, hlist, madeUp, if_neg (by simp [hquoted])]

/-! ### Default names in statements -/

/-- A foreign key without a name from these columns, all that it names being texts. -/
structure IsUnnamed (key : ForeignKey) (columns : List String) : Prop where
  columns : key.columns = columns.map .text
  table : ∃ referenced : String, key.table = .text referenced
  references : ∃ references : List String, key.references = references.map .text
  name : key.name = .null

/-- What is written for the name that is made up. -/
def defaultName (dialect : Dialect) (reference : String) (columns : List String) (suffix : String) : Sql :=
  dialect.written (String.ofList (madeUp (lastAtom reference) (joined columns) suffix))

theorem toList_text_defaultName (dialect : Dialect) (reference : String) (columns : List String) (suffix : String) :
    (defaultName dialect reference columns suffix).text.toList =
      dialect.spelling (madeUp (lastAtom reference) (joined columns) suffix) := by
  rw [defaultName, Dialect.toList_text_written, String.toList_ofList]

section

variable {target : Target} (hookless : target.dialect.Hookless)
include hookless

theorem wrap_text (reference : String) :
    Table.wrap target (.text reference) = pure (target.dialect.written reference) := by
  change target.dialect.wrap reference target.context = _
  rw [Dialect.wrap_eq hookless, Dialect.written]

theorem columnize_text (columns : List String) :
    Table.columnize target (columns.map .text) = pure (target.dialect.writtenList columns) := by
  have hwrap : (fun column => target.dialect.wrapValue column target.context) ∘ Value.text =
      fun column => pure (target.dialect.written column) := funext (wrap_text hookless)
  rw [Table.columnize, Dialect.columnize, List.mapM_map, hwrap, List.mapM_pure, pure_bind]
  rfl

variable {table : Table} {reference : String} (hname : table.name = .text reference) (columns : List String)
include hname

theorem nameSql_text : table.nameSql target = pure (target.dialect.written reference) := by
  rw [Table.nameSql, hname]
  exact wrap_text hookless reference

theorem wrapNameOr_default {suffix : String} (hsuffix : IsSuffix suffix) :
    Table.wrapNameOr target (table.indexName (columns.map .text) suffix) .null =
      pure (defaultName target.dialect reference columns suffix) := by
  have hgiven : ∀ name : String, Table.nameOr (.ok name) .null = .ok (.text name) := fun _ => rfl
  have hpure : ∀ name : Value, Recorded.ofExcept (.ok name) = pure name := fun _ => rfl
  rw [indexName_text hname columns hsuffix, Table.wrapNameOr, hgiven, hpure, pure_bind, wrap_text hookless,
    defaultName]

theorem namesConstraint_unique :
    NamesConstraint target table (.unique (columns.map .text) .null)
      (defaultName target.dialect reference columns "unique") := by
  have hkind : " " ++ "unique" ++ " (" = " unique (" := rfl
  refine ⟨Table.alterHead (target.dialect.written reference) ++ Sql.code " add constraint ",
    Sql.code " unique (" ++ target.dialect.writtenList columns ++ Sql.code ")", ?_, ?_⟩
  · simp only [aroundName, nameSql_text hookless hname, columnize_text hookless, pure_bind, outcome_pure]
  · simp only [Table.changeStatements, Table.addUnique, Table.addConstraint,
      wrapNameOr_default hookless hname columns isSuffix_unique, nameSql_text hookless hname,
      columnize_text hookless, hkind, pure_bind, outcome_pure, List.append_assoc]

theorem namesConstraint_foreign {key : ForeignKey} (hkey : IsUnnamed key columns) :
    NamesConstraint target table (.foreign key) (defaultName target.dialect reference columns "foreign") := by
  obtain ⟨hcolumns, ⟨referenced, htable⟩, ⟨references, hreferences⟩, hnull⟩ := hkey
  refine ⟨Table.alterHead (target.dialect.written reference) ++ Sql.code " add constraint ",
    Sql.code " foreign key (" ++ target.dialect.writtenList columns ++ Sql.code ") references " ++
      target.dialect.written referenced ++ Sql.code " (" ++ target.dialect.writtenList references ++ Sql.code ")" ++
      Table.onEvent "delete" key.onDelete ++ Table.onEvent "update" key.onUpdate, ?_, ?_⟩
  · simp only [aroundName, hcolumns, htable, hreferences, nameSql_text hookless hname, columnize_text hookless,
      wrap_text hookless, pure_bind, outcome_pure]
  · simp only [Table.changeStatements, Table.foreign, hcolumns, htable, hreferences, hnull,
      wrapNameOr_default hookless hname columns isSuffix_foreign, nameSql_text hookless hname,
      columnize_text hookless, wrap_text hookless, pure_bind, outcome_pure, List.append_assoc]

theorem dropKey_default {suffix : String} (hsuffix : IsSuffix suffix) :
    table.dropKey target (columns.map .text) suffix .null =
      pure (Table.alterHead (target.dialect.written reference) ++ Sql.code " drop constraint " ++
        defaultName target.dialect reference columns suffix) := by
  simp only [Table.dropKey, Table.dropConstraint, wrapNameOr_default hookless hname columns hsuffix,
    nameSql_text hookless hname, pure_bind]

theorem namesConstraint_dropUnique :
    NamesConstraint target table (.dropUnique (columns.map .text) .null)
      (defaultName target.dialect reference columns "unique") := by
  refine ⟨Table.alterHead (target.dialect.written reference) ++ Sql.code " drop constraint ", [], ?_, ?_⟩
  · simp only [aroundName, nameSql_text hookless hname, pure_bind, outcome_pure]
  · simp only [Table.changeStatements, dropKey_default hookless hname columns isSuffix_unique, pure_bind,
      outcome_pure, List.append_nil]

theorem namesConstraint_dropForeign :
    NamesConstraint target table (.dropForeign (columns.map .text) .null)
      (defaultName target.dialect reference columns "foreign") := by
  refine ⟨Table.alterHead (target.dialect.written reference) ++ Sql.code " drop constraint ", [], ?_, ?_⟩
  · simp only [aroundName, nameSql_text hookless hname, pure_bind, outcome_pure]
  · simp only [Table.changeStatements, dropKey_default hookless hname columns isSuffix_foreign, pure_bind,
      outcome_pure, List.append_nil]

end

/-! ### One name for one table -/

theorem lowerChars_append_underscore (before after : List Char) :
    Text.lowerChars (before ++ '_' :: after) = Text.lowerChars before ++ '_' :: Text.lowerChars after :=
  Text.lowerFrom_append_cons (by decide) (by decide) (by decide) (by decide) false before after

theorem madeUp_of_not_quoted {atom : List Char} (h : isQuotedChars atom = false) (joined : List Char)
    {suffix : String} (hsuffix : IsSuffix suffix) :
    madeUp atom joined suffix =
      Text.lowerChars atom ++ '_' :: (Text.lowerChars joined ++ '_' :: suffix.toList) := by
  rw [madeUp, if_neg (by simp [h]), unquoteChars_of_not_quoted h, lowerChars_append_underscore,
    lowerChars_append_underscore, hsuffix.lowered]

theorem begins_lowerChars {cs : List Char} (h : Reference.Begins cs) : Reference.Begins (Text.lowerChars cs) where
  trimmed := Text.trimLeft_lowerFrom h.trimmed false
  unaliased := cutAlias?_lowerFrom h.unaliased false
  undotted := dotsQuoted_lowerFrom h.undotted false

/-- Atoms that are written alike, both of them quoted or both not, make names that are written alike. -/
theorem spelling_madeUp_congr {folds : Bool} {atom atom' : List Char} (hbegins : Reference.Begins atom)
    (hbegins' : Reference.Begins atom') (hquoted : isQuotedChars atom = isQuotedChars atom')
    (hsame : (Dialect.snowflake folds none).identifierText atom = (Dialect.snowflake folds none).identifierText atom')
    (joined : List Char) {suffix : String} (hsuffix : IsSuffix suffix) :
    (Dialect.snowflake folds none).spelling (madeUp atom joined suffix) =
      (Dialect.snowflake folds none).spelling (madeUp atom' joined suffix) := by
  cases hq : isQuotedChars atom with
  | true =>
    have hq' := hquoted.symm.trans hq
    rw [Dialect.identifierText_of_quoted hq, Dialect.identifierText_of_quoted hq'] at hsame
    rw [hsame]
  | false =>
    have hq' := hquoted.symm.trans hq
    have hstored := Dialect.stored_of_identifierText_eq hq hq' hsame
    obtain rfl | ⟨rfl, hhead, hhead', hupper⟩ := Dialect.eq_or_upperChars_of_stored hstored
    · rfl
    rw [madeUp_of_not_quoted hq joined hsuffix, madeUp_of_not_quoted hq' joined hsuffix]
    have hopen : quotedAfter false atom = quotedAfter false atom' := by
      rw [← quotedAfter_upperChars, hupper, quotedAfter_upperChars]
    -- In lower case the atoms may differ even so, but no more once they are folded.
    refine Dialect.spelling_joined_congr (begins_lowerChars hbegins) (begins_lowerChars hbegins')
      (head?_lowerFrom_quote hhead false) (head?_lowerFrom_quote hhead' false) ?_
      (Text.upperChars_lowerChars_congr hupper) _
    rw [Text.lowerChars, Text.lowerChars, quotedAfter_lowerFrom, quotedAfter_lowerFrom, hopen]

/-- A table whose reference has no alias, and no blanks around it or in front of its last atom. -/
structure RefersPlainly (table : Table) (reference : String) : Prop where
  name : table.name = .text reference
  dotted : IsDotted reference
  unspaced : Text.trimLeft (lastAtom reference) = lastAtom reference

theorem begins_lastAtom {table : Table} {reference : String} (h : RefersPlainly table reference) :
    Reference.Begins (lastAtom reference) := by
  have hmem : lastAtom reference ∈ splitAtoms false reference.toList := by
    rw [lastAtom, List.getLast?_eq_some_getLast (splitAtoms_ne_nil _ _), Option.getD_some]
    exact List.getLast_mem _
  have hnone := cutAlias?_eq_none_iff.mp h.dotted.unaliased
  exact {
    trimmed := h.unspaced
    unaliased := cutAlias?_eq_none_iff.mpr (not_holdsSeparator_of_mem_splitAtoms hnone hmem)
    undotted := (areAtoms_splitAtoms false reference.toList).dotsQuoted_of_mem hmem }

theorem identifierText_lastAtom_congr {dialect : Dialect} {reference reference' : String} (h : IsDotted reference)
    (h' : IsDotted reference') (hsame : (dialect.written reference).text = (dialect.written reference').text) :
    dialect.identifierText (lastAtom reference) = dialect.identifierText (lastAtom reference') := by
  have hlast : ∀ {reference : String}, IsDotted reference →
      (Reference.parse reference.toList).lastIdentifier = lastAtom reference := by
    intro reference h
    rw [h.parse_eq]
    rfl
  rw [← String.toList_inj, Dialect.toList_text_written, Dialect.toList_text_written] at hsame
  rw [← hlast h, ← hlast h', Dialect.identifierText_lastIdentifier, Dialect.map_parse_of_spelling_eq hsame,
    Dialect.identifierText_lastIdentifier]

theorem text_defaultName_congr {folds : Bool} {table other : Table} {reference reference' : String}
    (h : RefersPlainly table reference) (h' : RefersPlainly other reference')
    (hquoted : isQuotedChars (lastAtom reference) = isQuotedChars (lastAtom reference'))
    (hsame : ((Dialect.snowflake folds none).written reference).text =
      ((Dialect.snowflake folds none).written reference').text)
    (columns : List String) {suffix : String} (hsuffix : IsSuffix suffix) :
    (defaultName (.snowflake folds none) reference columns suffix).text =
      (defaultName (.snowflake folds none) reference' columns suffix).text := by
  rw [← String.toList_inj, toList_text_defaultName, toList_text_defaultName]
  exact spelling_madeUp_congr (begins_lastAtom h) (begins_lastAtom h') hquoted
    (identifierText_lastAtom_congr h.dotted h'.dotted hsame) (joined columns) hsuffix

/-- The constraint that one change drops is the one that the other change adds. -/
def DropsAdded (target : Target) (table other : Table) (add drop : TableChange) : Prop :=
  ∃ added dropped, NamesConstraint target table add added ∧ NamesConstraint target other drop dropped ∧
    dropped.text = added.text

/-- A constraint that was added without a name is dropped without one on every table that is written like the first,
as long as the last atoms of their references are both quoted or both not. -/
theorem default_name_drops_constraint (folds strict : Bool) (context : Value) {table other : Table}
    {reference reference' : String} (h : RefersPlainly table reference) (h' : RefersPlainly other reference')
    (hquoted : isQuotedChars (lastAtom reference) = isQuotedChars (lastAtom reference'))
    (hsame : (table.nameSql ⟨.snowflake folds none, strict, context⟩).outcome.map Sql.text =
      (other.nameSql ⟨.snowflake folds none, strict, context⟩).outcome.map Sql.text)
    (columns : List String) :
    let target : Target := ⟨.snowflake folds none, strict, context⟩
    DropsAdded target table other (.unique (columns.map .text) .null) (.dropUnique (columns.map .text) .null) ∧
      ∀ key, IsUnnamed key columns →
        DropsAdded target table other (.foreign key) (.dropForeign (columns.map .text) .null) := by
  intro target
  have hookless : target.dialect.Hookless := Dialect.hookless_snowflake folds
  have hwritten : (target.dialect.written reference).text = (target.dialect.written reference').text := by
    rw [nameSql_text hookless h.name, nameSql_text hookless h'.name] at hsame
    exact Except.ok.inj hsame
  constructor
  · exact ⟨_, _, namesConstraint_unique hookless h.name columns, namesConstraint_dropUnique hookless h'.name columns,
      (text_defaultName_congr h h' hquoted hwritten columns isSuffix_unique).symm⟩
  · intro key hkey
    exact ⟨_, _, namesConstraint_foreign hookless h.name columns hkey,
      namesConstraint_dropForeign hookless h'.name columns,
      (text_defaultName_congr h h' hquoted hwritten columns isSuffix_foreign).symm⟩

theorem constraint_dropped_in_other_case :
    let target : Target := { dialect := .snowflake true none }
    let table : Table := { name := .text "db.straße" }
    let other : Table := { name := .text "Db.STRASSE" }
    let key : ForeignKey := { columns := [.text "a", .text "b"], table := .text "c", references := [.text "d"] }
    RefersPlainly table "db.straße" ∧ RefersPlainly other "Db.STRASSE" ∧
      isQuotedChars (lastAtom "db.straße") = isQuotedChars (lastAtom "Db.STRASSE") ∧
      (table.nameSql target).outcome.map Sql.text = (other.nameSql target).outcome.map Sql.text ∧
      IsUnnamed key ["a", "b"] ∧
      DropsAdded target table other (.unique [.text "a", .text "b"] .null)
        (.dropUnique [.text "a", .text "b"] .null) ∧
      DropsAdded target table other (.foreign key) (.dropForeign [.text "a", .text "b"] .null) := by
  intro target table other key
  have h : RefersPlainly table "db.straße" := ⟨rfl, ⟨by decide, by decide⟩, by decide⟩
  have h' : RefersPlainly other "Db.STRASSE" := ⟨rfl, ⟨by decide, by decide⟩, by decide⟩
  have hquoted : isQuotedChars (lastAtom "db.straße") = isQuotedChars (lastAtom "Db.STRASSE") := by decide
  have hsame : (table.nameSql target).outcome.map Sql.text = (other.nameSql target).outcome.map Sql.text := by
    decide +kernel
  have hkey : IsUnnamed key ["a", "b"] := ⟨rfl, ⟨"c", rfl⟩, ⟨["d"], rfl⟩, rfl⟩
  obtain ⟨hunique, hforeign⟩ := default_name_drops_constraint true false .null h h' hquoted hsame ["a", "b"]
  exact ⟨h, h', hquoted, hsame, hkey, hunique, hforeign key hkey⟩

/-- A table may be referred to with its name quoted as it is stored. What is quoted keeps its case in the name that
is made up, so that it is another one. -/
theorem quoted_reference_drops_another :
    let target : Target := { dialect := .snowflake true none }
    let table : Table := { name := .text "users" }
    let other : Table := { name := .text "\"USERS\"" }
    (table.nameSql target).outcome.map Sql.text = (other.nameSql target).outcome.map Sql.text ∧
      ¬ DropsAdded target table other (.unique [.text "id"] .null) (.dropUnique [.text "id"] .null) := by
  intro target table other
  refine ⟨by decide +kernel, ?_⟩
  rintro ⟨added, dropped, hadded, hdropped, hsame⟩
  have hookless : target.dialect.Hookless := Dialect.hookless_snowflake true
  rw [hadded.eq (namesConstraint_unique hookless rfl ["id"]),
    hdropped.eq (namesConstraint_dropUnique hookless rfl ["id"]), ← String.toList_inj, toList_text_defaultName,
    toList_text_defaultName] at hsame
  revert hsame
  decide +kernel

end Schema

end SqlBuilder
