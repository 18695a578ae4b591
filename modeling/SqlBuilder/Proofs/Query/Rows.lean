import Mathlib.Data.List.Infix
import SqlBuilder.Proofs.Query.Parts
import SqlBuilder.Proofs.Text.Cutting
import SqlBuilder.Proofs.Value.Reading

/-!
The rows of an insert that can be written. Main statement: what a row holds as its columns are all the
members that it was given with, so that only empty rows are without columns.
-/

namespace SqlBuilder

open Recorded

namespace Row

/-- A collection that is no mapping has no columns that can be told. -/
theorem eq_nil_of_checkCell {xs : List Value}
    (h : ∀ x ∈ xs, ∃ s, x = .text s ∧ checkCell (.list xs) (.text s) = .ok ()) : xs = [] := by
  refine List.eq_nil_iff_forall_not_mem.mpr fun x hx => ?_
  obtain ⟨s, rfl, hcheck⟩ := h x hx
  have hany : xs.any (·.equals (.text s)) = true :=
    List.any_eq_true.mpr ⟨.text s, hx, Value.equals_text_self s⟩
  rw [checkCell, if_pos hany, checkPosition] at hcheck
  simp [Value.integral?] at hcheck

/-- The columns of an accepted row are its members. -/
theorem items_of_ofValue {value : Value} {items : List Value} {row : Row} (hitems : value.items? = some items)
    (hcells : ∀ x ∈ items, ∃ s, x = .text s ∧ checkCell value (.text s) = .ok ())
    (hrow : ofValue value = .ok row) : items = row.map fun cell => .text cell.1 := by
  cases value with
  | dict entries =>
    obtain rfl := Option.some.inj hitems
    have hentries := except_mapM_eq_ok.mp hrow
    clear hcells hitems hrow
    induction hentries with
    | nil => rfl
    | @cons entry cell entries row hcell _ ih =>
      obtain ⟨name, hname, hpair⟩ := except_bind_eq_ok.mp hcell
      obtain rfl := Except.ok.inj hpair
      rw [List.map_cons, List.map_cons, ih, Value.toName_eq_ok.mp hname]
  | list xs | tuple xs =>
    obtain rfl := Option.some.inj hitems
    obtain rfl := Except.ok.inj hrow
    exact eq_nil_of_checkCell hcells
  | text s =>
    obtain rfl := Option.some.inj hitems
    obtain rfl := Except.ok.inj hrow
    refine List.eq_nil_iff_forall_not_mem.mpr fun x hx => ?_
    obtain ⟨t, ht, hcheck⟩ := hcells x hx
    obtain ⟨c, hc, rfl⟩ := List.mem_map.mp hx
    obtain rfl := Value.text.inj ht
    have hoccurs : Text.occursIn [c] s.toList = true :=
      Text.occursIn_iff.mpr ((List.singleton_infix_iff _ _).mpr hc)
    rw [checkCell, if_pos (by simpa using hoccurs)] at hcheck
    cases hcheck
  | bytes bs =>
    obtain rfl := Option.some.inj hitems
    obtain rfl := Except.ok.inj hrow
    refine List.eq_nil_iff_forall_not_mem.mpr fun x hx => ?_
    obtain ⟨t, rfl, -⟩ := hcells x hx
    obtain ⟨b, -, hb⟩ := List.mem_map.mp hx
    cases hb
  | _ => cases hitems

theorem items_of_columnsOf {value : Value} {items : List Value} (h : columnsOf value = .ok items) :
    value.items? = some items := by
  obtain ⟨columns, hcolumns, h⟩ := except_bind_eq_ok.mp h
  split at h
  · obtain rfl := Except.ok.inj h
    rw [Value.toItems] at hcolumns
    cases hitems : value.items? with
    | none => rw [hitems] at hcolumns; cases hcolumns
    | some items =>
      rw [hitems] at hcolumns
      rw [Except.ok.inj hcolumns]
  · cases h

/-- What has to hold of rows to be accepted: each has columns, and all of these are names that lead to a
value in every row. -/
theorem ofValues_eq_ok {values : List Value} {rows : List Row} (h : ofValues values = .ok rows) :
    ∃ lists, values.mapM columnsOf = .ok lists ∧
      (∀ value ∈ values, ∀ x ∈ lists.flatten, ∃ s, x = .text s ∧ checkCell value (.text s) = .ok ()) ∧
      values.mapM ofValue = .ok rows := by
  unfold ofValues at h
  obtain ⟨lists, hlists, h⟩ := except_bind_eq_ok.mp h
  simp only at h
  split at h
  · cases h
  · obtain ⟨⟨⟩, hcells, h⟩ := except_bind_eq_ok.mp h
    obtain ⟨⟨⟩, hnames, h⟩ := except_bind_eq_ok.mp h
    refine ⟨lists, hlists, ?_, h⟩
    intro value hvalue x hx
    obtain ⟨y, hy, heq⟩ := Value.exists_mem_distinct hx
    have hname := except_forM_eq_ok.mp hnames y hy
    obtain ⟨s, rfl⟩ : ∃ s, y = .text s := by
      cases hs : y.toName with
      | error e => rw [hs] at hname; cases hname
      | ok s => exact ⟨s, Value.toName_eq_ok.mp hs⟩
    have hx : x = .text s := by
      rcases heq with heq | heq
      · exact heq.symm
      · exact Value.eq_of_text_equals heq
    have hcell := except_forM_eq_ok.mp (except_forM_eq_ok.mp hcells value hvalue) (.text s)
      (List.mem_mergeSort.mpr hy)
    exact ⟨s, hx, hcell⟩

theorem items_of_ofValues {values : List Value} {rows : List Row} (h : ofValues values = .ok rows) :
    List.Forall₂ (fun value row => value.items? = some (row.map fun cell => .text cell.1)) values rows := by
  obtain ⟨lists, hlists, hcells, hrows⟩ := ofValues_eq_ok h
  have hall := except_mapM_eq_ok.mp hlists
  have hread := except_mapM_eq_ok.mp hrows
  clear h hlists hrows
  induction hread generalizing lists with
  | nil => exact .nil
  | @cons value row values rows hrow _ ih =>
    cases hall with
    | @cons _ items _ lists hitems hrest =>
      have hfirst := items_of_columnsOf hitems
      refine .cons ?_ (ih lists ?_ hrest)
      · rw [hfirst, items_of_ofValue hfirst (fun x hx => ?_) hrow]
        exact hcells value (by simp) x (by simp [hx])
      · intro value hvalue x hx
        exact hcells value (by simp [hvalue]) x (List.mem_append_right _ hx)

theorem ne_nil_of_ofValues {value : Value} {values : List Value} {rows : List Row}
    (h : ofValues (value :: values) = .ok rows) : rows ≠ [] := by
  cases items_of_ofValues h with
  | cons _ _ => exact List.cons_ne_nil _ _

theorem columnsOf_toValue (row : Row) : columnsOf row.toValue = .ok (row.map fun cell => .text cell.1) := by
  have hitems : row.toValue.toItems = .ok (row.map fun cell => .text cell.1) := by
    simp [toValue, Value.toItems, Value.items?, Function.comp_def]
  have hkeys : (row.map fun cell => Value.text cell.1).all Value.isKey = true := by
    simp [Value.isKey]
  rw [columnsOf, hitems]
  exact if_pos hkeys

/-- Mappings from names are accepted as they are. -/
theorem ofValues_toValue (rows : List Row) : ofValues (rows.map toValue) = .ok rows := by
  have hlists : (rows.map toValue).mapM columnsOf =
      .ok (rows.map fun row => row.map fun cell => .text cell.1) := by
    rw [except_mapM_eq_ok, List.forall₂_map_left_iff, List.forall₂_map_right_iff, List.forall₂_same]
    exact fun row _ => columnsOf_toValue row
  have hrows : (rows.map toValue).mapM ofValue = .ok rows := by
    rw [except_mapM_eq_ok, List.forall₂_map_left_iff, List.forall₂_same]
    intro row _
    rw [toValue, ofValue, ofEntries, except_mapM_eq_ok, List.forall₂_map_left_iff, List.forall₂_same]
    exact fun _ _ => rfl
  have htexts : ∀ x ∈ Value.distinct (rows.map fun row => row.map fun cell => Value.text cell.1).flatten,
      ∃ s, x = .text s := by
    intro x hx
    obtain ⟨column, hcolumn, hmem⟩ := List.mem_flatten.mp (Value.mem_of_mem_distinct hx)
    obtain ⟨row, -, rfl⟩ := List.mem_map.mp hcolumn
    obtain ⟨cell, -, rfl⟩ := List.mem_map.mp hmem
    exact ⟨_, rfl⟩
  unfold ofValues
  refine except_bind_eq_ok.mpr ⟨_, hlists, ?_⟩
  simp only [Value.areOrdered_of_texts htexts]
  refine except_bind_eq_ok.mpr ⟨(), except_forM_eq_ok.mpr fun value hvalue => ?_, ?_⟩
  · obtain ⟨row, -, rfl⟩ := List.mem_map.mp hvalue
    exact except_forM_eq_ok.mpr fun _ _ => rfl
  · refine except_bind_eq_ok.mpr ⟨(), except_forM_eq_ok.mpr fun column hcolumn => ?_, hrows⟩
    obtain ⟨s, rfl⟩ := htexts column hcolumn
    rfl

end Row

namespace Query

theorem insertName_ne_nil (name : String) (names : List String) : insertName name names ≠ [] := by
  cases names with
  | nil => exact List.cons_ne_nil _ _
  | cons other names =>
    rw [insertName]
    split
    · exact List.cons_ne_nil _ _
    · split <;> exact List.cons_ne_nil _ _

theorem columnUnion_eq_nil_iff (rows : List Row) : columnUnion rows = [] ↔ ∀ row ∈ rows, row = [] := by
  have hfold : ∀ names : List String, names.foldr insertName [] = [] ↔ names = [] := by
    intro names
    cases names with
    | nil => simp
    | cons name names => simp [insertName_ne_nil]
  rw [columnUnion, hfold]
  simp

theorem rows_ne_nil_of_columnUnion {rows : List Row} (h : columnUnion rows ≠ []) : rows ≠ [] := by
  rintro rfl
  exact h rfl

/-- Accepted rows have no column together if none of them has a member. -/
theorem columnUnion_of_ofValues {values : List Value} {rows : List Row}
    (h : Row.ofValues values = .ok rows) :
    columnUnion rows = [] ↔ ∀ value ∈ values, value.items? = some [] := by
  rw [columnUnion_eq_nil_iff]
  have hall := Row.items_of_ofValues h
  clear h
  induction hall with
  | nil => simp
  | @cons value row values rows hitems _ ih =>
    rw [List.forall_mem_cons, List.forall_mem_cons]
    exact and_congr (by simp [hitems]) ih

theorem insertRowsSql_empty (q : Query) {rows : List Row} (h : columnUnion rows = []) (dialect : Dialect)
    (table : Sql) : q.insertRowsSql dialect table rows = defaultRowSql dialect table := by
  unfold insertRowsSql
  simp only [List.isEmpty_iff, if_pos h]

theorem insertRowsSql_columns (q : Query) {rows : List Row} (h : columnUnion rows ≠ []) (dialect : Dialect)
    (table : Sql) : q.insertRowsSql dialect table rows = (do
      let names ← dialect.columnize ((columnUnion rows).map .text) q.context
      let returning ← q.returningSql dialect
      q.warnReturning dialect
      return Sql.code "insert into " ++ table ++ Sql.code " (" ++ names ++ Sql.code ") values " ++
        Sql.separated ", " (rows.map (tupleSql (columnUnion rows))) ++ returning) := by
  unfold insertRowsSql
  simp only [List.isEmpty_iff, if_neg h]

/-- The parts that an insert of rows with columns is put together from. -/
theorem insertRowsSql_eq_ok {dialect : Dialect} {q : Query} {table sql : Sql} {rows : List Row}
    (hcolumns : columnUnion rows ≠ []) :
    (q.insertRowsSql dialect table rows).outcome = .ok sql ↔
      ∃ names returning, (dialect.columnize ((columnUnion rows).map .text) q.context).outcome = .ok names ∧
        (q.returningSql dialect).outcome = .ok returning ∧
        sql = Sql.code "insert into " ++ table ++ Sql.code " (" ++ names ++ Sql.code ") values " ++
          Sql.separated ", " (rows.map (tupleSql (columnUnion rows))) ++ returning := by
  rw [insertRowsSql_columns q hcolumns]
  constructor
  · intro h
    obtain ⟨names, hnames, h⟩ := bind_outcome_eq_ok.mp h
    obtain ⟨returning, hreturning, h⟩ := bind_outcome_eq_ok.mp h
    obtain ⟨⟨⟩, -, h⟩ := bind_outcome_eq_ok.mp h
    exact ⟨names, returning, hnames, hreturning, (Except.ok.inj h).symm⟩
  · rintro ⟨names, returning, hnames, hreturning, rfl⟩
    exact bind_outcome_eq_ok.mpr ⟨names, hnames, bind_outcome_eq_ok.mpr ⟨returning, hreturning,
      bind_outcome_eq_ok.mpr ⟨(), outcome_warnReturning q dialect, rfl⟩⟩⟩

/-- Snowflake is never asked to return rows. -/
theorem returningSql_of_snowflake {folds : Bool} {hook : Option Hook} {q : Query} :
    q.returningSql (.snowflake folds hook) = pure [] := by
  unfold returningSql
  simp [Dialect.supportsReturning]

theorem sql_of_insert {q : Query} (hmethod : q.method = .insert) (dialect : Dialect) :
    q.sql dialect = q.insertSql dialect := by
  rw [sql, hmethod]

/-- An insert of accepted rows writes its table before it writes them. -/
theorem sql_insert {dialect : Dialect} {q : Query} {item : Value} {items : List Value} {rows : List Row}
    (hmethod : q.method = .insert) (hitems : q.payload.toItemsIfTrue = .ok (item :: items))
    (hrows : Row.ofValues (item :: items) = .ok rows) :
    q.sql dialect = q.tableSql dialect >>= fun table => q.insertRowsSql dialect table rows := by
  have hinsert : q.insertSql dialect = (q.tableSql dialect >>= fun table =>
      Recorded.ofExcept (Row.ofValues (item :: items)) >>= q.insertRowsSql dialect table) := by
    rw [insertSql, hitems]
    rfl
  rw [sql_of_insert hmethod, hinsert, hrows]
  rfl

/-- What an insert of mappings from names is compiled to. -/
theorem toStatement_insert {dialect : Dialect} {q : Query} {row : Row} {rows : List Row}
    (htable : q.table.isTrue = true) (hmethod : q.method = .insert)
    (hpayload : q.payload = .list ((row :: rows).map Row.toValue)) :
    q.toStatement dialect = (do
      let sql ← q.tableSql dialect >>= fun table => q.insertRowsSql dialect table (row :: rows)
      return { Statement.ofSql sql .insert with pluck := q.pluck, options := q.options }) := by
  have hitems : q.payload.toItemsIfTrue = .ok (row.toValue :: rows.map Row.toValue) := by
    rw [hpayload]
    rfl
  rw [toStatement, if_pos htable, compile, sql_insert hmethod hitems (Row.ofValues_toValue (row :: rows)), hmethod]

end Query

end SqlBuilder
