import SqlBuilder.Proofs.Name.Quoting
import SqlBuilder.Proofs.Schema.Entries
import SqlBuilder.Proofs.Sql.Text

/-!
The constants in definitions of tables, as a database reads them: two quotes denote one, and a backslash escapes the
character after it. Main statement: each comment, default and collation is read as the text that was given for it
exactly if there is no backslash in that text.
-/

namespace SqlBuilder.Schema

open Text

/-! ### Reading -/

/-- The text that a constant denotes, and what follows the constant. -/
abbrev Reading := Option (List Char × List Char)

def Reading.prepend (first : List Char) (reading : Reading) : Reading :=
  reading.map fun (value, rest) => (first ++ value, rest)

/-- Reads on after the opening quote. A constant that does not end is none. -/
def readBody (escaped : Char → Char) : List Char → Reading
  | [] => none
  | [c] => if c = '\'' then some ([], []) else none
  | c :: d :: cs =>
    if c = '\\' then (readBody escaped cs).prepend [escaped d]
    else if c ≠ '\'' then (readBody escaped (d :: cs)).prepend [c]
    else if d = '\'' then (readBody escaped cs).prepend ['\'']
    else some ([], d :: cs)

def readLiteral (escaped : Char → Char) : List Char → Reading
  | '\'' :: cs => readBody escaped cs
  | _ => none

theorem Reading.prepend_prepend (first second : List Char) (reading : Reading) :
    (reading.prepend second).prepend first = reading.prepend (first ++ second) := by
  cases reading <;> simp [prepend]

theorem Reading.prepend_eq_some {first value rest : List Char} {reading : Reading} :
    reading.prepend first = some (value, rest) ↔
      ∃ last, reading = some (last, rest) ∧ value = first ++ last := by
  rcases reading with _ | ⟨last, after⟩
  · simp [prepend]
  · simp only [prepend, Option.map_some, Option.some.injEq, Prod.mk.injEq]
    constructor
    · rintro ⟨rfl, rfl⟩
      exact ⟨last, ⟨rfl, rfl⟩, rfl⟩
    · rintro ⟨_, ⟨rfl, rfl⟩, rfl⟩
      exact ⟨rfl, rfl⟩

variable {escaped : Char → Char} {text rest : List Char}

theorem readBody_close (h : rest.head? ≠ some '\'') : readBody escaped ('\'' :: rest) = some ([], rest) := by
  cases rest with
  | nil => rfl
  | cons c rest =>
    have hc : c ≠ '\'' := by simpa using h
    simp [readBody, hc]

theorem readBody_pair (cs : List Char) :
    readBody escaped ('\'' :: '\'' :: cs) = (readBody escaped cs).prepend ['\''] := by
  simp [readBody]

theorem readBody_other {c : Char} (hescape : c ≠ '\\') (hquote : c ≠ '\'') (cs : List Char) :
    readBody escaped (c :: cs) = (readBody escaped cs).prepend [c] := by
  cases cs with
  | nil => simp [readBody, hquote, Reading.prepend]
  | cons d cs => simp [readBody, hescape, hquote]

theorem readBody_escape (d : Char) (cs : List Char) :
    readBody escaped ('\\' :: d :: cs) = (readBody escaped cs).prepend [escaped d] := by
  simp [readBody]

/-! ### Texts as they are written -/

/-- As long as nothing is escaped, characters are read as they were before their quotes were doubled. -/
theorem readBody_double_append (h : '\\' ∉ text) (cs : List Char) :
    readBody escaped (double '\'' text ++ cs) = (readBody escaped cs).prepend text := by
  induction text with
  | nil => cases hread : readBody escaped cs <;> simp [double, hread, Reading.prepend]
  | cons c text ih =>
    simp only [List.mem_cons, not_or] at h
    by_cases hc : c = '\''
    · subst hc
      rw [double_cons_self, List.cons_append, List.cons_append, readBody_pair, ih h.2, Reading.prepend_prepend]
      rfl
    · rw [double_cons_of_ne hc, List.cons_append, readBody_other (Ne.symm h.1) hc, ih h.2,
        Reading.prepend_prepend]
      rfl

theorem length_double_cons_le (c : Char) (cs : List Char) :
    (double '\'' (c :: cs)).length ≤ (double '\'' cs).length + 2 := by
  by_cases hc : c = '\''
  · rw [hc, double_cons_self]
    simp
  · rw [double_cons_of_ne hc]
    simp

/-- Written again, what was read takes no more room than it took. -/
theorem length_of_readBody {cs : List Char} (h : readBody escaped cs = some (text, rest)) :
    (double '\'' text).length + rest.length < cs.length := by
  fun_induction readBody escaped cs generalizing text with
  | case1 => cases h
  | case2 =>
    obtain ⟨rfl, rfl⟩ := Prod.mk.inj (Option.some.inj h)
    simp [double]
  | case3 => cases h
  | case4 d cs ih =>
    obtain ⟨last, hlast, rfl⟩ := Reading.prepend_eq_some.mp h
    have hlength := ih hlast
    have hfirst := length_double_cons_le (escaped d) last
    simp only [List.singleton_append, List.length_cons] at hfirst ⊢
    omega
  | case5 c d cs _ hquote ih =>
    obtain ⟨last, hlast, rfl⟩ := Reading.prepend_eq_some.mp h
    have hlength := ih hlast
    rw [List.singleton_append, double_cons_of_ne hquote]
    simp only [List.length_cons] at hlength ⊢
    omega
  | case6 c cs _ hquote ih =>
    obtain ⟨last, hlast, rfl⟩ := Reading.prepend_eq_some.mp h
    have hlength := ih hlast
    have hfirst := length_double_cons_le '\'' last
    simp only [List.singleton_append, List.length_cons] at hfirst ⊢
    omega
  | case7 c d cs =>
    obtain ⟨rfl, rfl⟩ := Prod.mk.inj (Option.some.inj h)
    simp [double]

/-- If a constant began with a backslash, then its text would have to be read from one character too few. -/
theorem readBody_backslash_ne (tail : List Char) :
    readBody escaped (double '\'' ('\\' :: tail) ++ '\'' :: rest) ≠ some ('\\' :: tail, rest) := by
  intro h
  rw [double_cons_of_ne (by decide), List.cons_append] at h
  cases hnext : double '\'' tail ++ '\'' :: rest with
  | nil => simp at hnext
  | cons d cs =>
    rw [hnext, readBody_escape] at h
    obtain ⟨last, hlast, htext⟩ := Reading.prepend_eq_some.mp h
    obtain ⟨-, rfl⟩ := List.cons.inj htext
    have hread := length_of_readBody hlast
    have hwritten := congrArg List.length hnext
    simp only [List.length_append, List.length_cons] at hwritten
    omega

theorem readBody_double_iff (h : rest.head? ≠ some '\'') :
    readBody escaped (double '\'' text ++ '\'' :: rest) = some (text, rest) ↔ '\\' ∉ text := by
  constructor
  · intro hread hmem
    obtain ⟨before, tail, rfl, hbefore⟩ := List.eq_append_cons_of_mem hmem
    have happend : double '\'' (before ++ '\\' :: tail) = double '\'' before ++ double '\'' ('\\' :: tail) :=
      List.flatMap_append
    rw [happend, List.append_assoc, readBody_double_append hbefore] at hread
    obtain ⟨last, hlast, htext⟩ := Reading.prepend_eq_some.mp hread
    rw [← List.append_cancel_left htext] at hlast
    exact readBody_backslash_ne tail hlast
  · intro hmem
    rw [readBody_double_append hmem, readBody_close h]
    simp [Reading.prepend]

/-- A constant ends where its literal ends and denotes the text of the literal exactly if the text has no backslash,
whatever escaped characters stand for. -/
theorem readLiteral_quoteLiteral_iff (s : String) (h : rest.head? ≠ some '\'') :
    readLiteral escaped ((quoteLiteral s).toList ++ rest) = some (s.toList, rest) ↔ '\\' ∉ s.toList := by
  rw [← readBody_double_iff h, quoteLiteral, String.toList_ofList, List.append_assoc]
  rfl

/-! ### Where literals are written -/

open Recorded Sql

/-- The part stands in the whole, and no quote follows it. -/
def Holds (whole part : Sql) : Prop :=
  ∃ before after : Sql, whole = before ++ (part ++ after) ∧ after.text.toList.head? ≠ some '\''

variable {whole part : Sql}

theorem holds_refl (part : Sql) : Holds part part :=
  ⟨[], [], by simp, by simp⟩

theorem Holds.append_left (h : Holds whole part) (front : Sql) : Holds (front ++ whole) part := by
  obtain ⟨before, after, rfl, hafter⟩ := h
  exact ⟨front ++ before, after, by simp, hafter⟩

theorem Holds.append_right (h : Holds whole part) {back : Sql} (hback : back.text.toList.head? ≠ some '\'') :
    Holds (whole ++ back) part := by
  obtain ⟨before, after, rfl, hafter⟩ := h
  refine ⟨before, after ++ back, by simp, ?_⟩
  rw [toList_text_append, List.head?_append]
  cases hhead : after.text.toList.head? with
  | none => exact hback
  | some c => simpa [hhead] using hafter

theorem holds_separated {separator : String} (hseparator : separator.toList.head?.any (· != '\'') = true)
    {parts : List Sql} (hwhole : whole ∈ parts) (h : Holds whole part) :
    Holds (separated separator parts) part := by
  have hhead : ∀ rest : Sql, (code separator ++ rest).text.toList.head? ≠ some '\'' := by
    intro rest hrest
    rw [toList_text_append, toList_text_code, List.head?_append] at hrest
    cases hfirst : separator.toList.head? with
    | none => simp [hfirst] at hseparator
    | some c => simp_all
  induction parts with
  | nil => cases hwhole
  | cons first parts ih =>
    cases parts with
    | nil =>
      obtain rfl := List.mem_singleton.mp hwhole
      rwa [separated_singleton]
    | cons second parts =>
      rw [separated_cons_cons]
      rcases List.mem_cons.mp hwhole with rfl | hrest
      · exact h.append_right (hhead _)
      · exact ((ih hrest).append_left _).append_left _

/-! ### Comments, defaults and collations -/

variable {target : Target} {table : Table} {column : Column} {lead s : String}

theorem Column.holds_modifier {definition : Sql} (h : column.IsDefinedBy target table definition)
    (hpart : part ∈ column.defaultSql ++ column.collationSql) : Holds definition part := by
  obtain ⟨name, type, unsigned, comment, later, -, -, -, -, rfl⟩ := h.exists_parts
  refine holds_separated (by decide) ?_ (holds_refl part)
  simp only [List.mem_append] at hpart ⊢
  rcases hpart with hpart | hpart
  · simp [hpart]
  · simp [hpart]

namespace Table

/-- New columns are defined by the statement that creates the table, or by the one that adds them to it. -/
theorem exists_entry_of_definition (target : Target) (hcolumn : column ∈ table.added)
    (hpart : ∀ definition, column.IsDefinedBy target table definition → Holds definition part) :
    ∃ entry ∈ table.entries target.dialect, ∀ sql, Entry.Writes target table entry sql → Holds sql part := by
  cases hmode : table.isAltered with
  | false =>
    refine ⟨.create, by simp [entries, hmode, createEntries], fun sql hwrites => ?_⟩
    cases hwrites with
    | create hname hdefinitions htail =>
      obtain ⟨definition, hmem, hdefined⟩ := exists_mem_of_forall₂ hdefinitions hcolumn
      have hseparator : ", ".toList.head?.any (· != '\'') = true := by decide
      have hall := holds_separated hseparator hmem (hpart definition hdefined)
      rw [List.append_assoc]
      exact (hall.append_left _).append_right (by simp)
  | true =>
    have hsome : table.added.isEmpty = false := by
      rw [List.isEmpty_eq_false_iff]
      exact List.ne_nil_of_mem hcolumn
    refine ⟨.add, by simp [entries, hmode, alterEntries, addEntries, hsome], fun sql hwrites => ?_⟩
    cases hwrites with
    | add hname hdefinitions =>
      obtain ⟨definition, hmem, hdefined⟩ := exists_mem_of_forall₂ hdefinitions hcolumn
      have hadded := (hpart definition hdefined).append_left (code "add ")
      exact (holds_separated (by decide) (List.mem_map_of_mem hmem) hadded).append_left _

/-- The text is written as a constant in a statement for the table, behind these words. -/
inductive Spells (table : Table) : String → String → Prop
  | tableComment {s : String} : table.comment = some (.text s) → Spells table " is " s
  | columnComment {column : Column} {s : String} :
      column ∈ table.added ∨ table.isAltered = true ∧ column ∈ table.altered →
      column.modifiers.comment = some (.text s) → s ≠ "" → Spells table " is " s
  | default {column : Column} {s : String} : column ∈ table.added →
      column.modifiers.default = some (.text s) → Spells table "default " s
  | collation {column : Column} {s : String} : column ∈ table.added →
      column.modifiers.collation = some (.text s) → Spells table "collate " s

variable {folds strict : Bool} {hook : Option Hook} {context : Value}

theorem holds_tableComment {sql : Sql}
    (h : Entry.Writes ⟨.snowflake folds hook, strict, context⟩ table (.tableComment (.text s)) sql) :
    Holds sql (code " is " ++ literalSql s) := by
  cases h with
  | tableComment h =>
    obtain ⟨name, -, h⟩ := bind_outcome_eq_ok.mp h
    obtain ⟨comment, hcomment, h⟩ := bind_outcome_eq_ok.mp h
    obtain rfl := Except.ok.inj h
    have hliteral : comment = literalSql s := by
      by_cases hs : s = ""
      · subst hs
        exact (Except.ok.inj hcomment).symm
      · have htrue : (Value.text s).isTrue = true := by simp [Value.isTrue, hs]
        have hgiven : commentLiteral (.text s) = .ok (literalSql s) := if_pos htrue
        exact (Except.ok.inj (hgiven.symm.trans hcomment)).symm
    change Holds (code "comment on table " ++ name ++ code " is " ++ comment) _
    rw [hliteral, List.append_assoc]
    exact (holds_refl _).append_left _

theorem holds_columnComment {sql : Sql} (hs : s ≠ "")
    (h : Entry.Writes ⟨.snowflake folds hook, strict, context⟩ table (.columnComment column (.text s)) sql) :
    Holds sql (code " is " ++ literalSql s) := by
  cases h with
  | columnComment h =>
    obtain ⟨name, -, h⟩ := bind_outcome_eq_ok.mp h
    obtain ⟨columnName, -, h⟩ := bind_outcome_eq_ok.mp h
    obtain rfl := Except.ok.inj h
    have htrue : (Value.text s).isTrue = true := by simp [Value.isTrue, hs]
    have hliteral : Column.commentValueSql (.text s) = literalSql s := if_pos htrue
    rw [hliteral, List.append_assoc]
    exact (holds_refl _).append_left _

theorem Spells.exists_entry (h : table.Spells lead s) :
    ∃ entry ∈ table.entries (.snowflake folds hook),
      ∀ sql, Entry.Writes ⟨.snowflake folds hook, strict, context⟩ table entry sql →
        Holds sql (code lead ++ literalSql s) := by
  cases h with
  | tableComment hcomment =>
    refine ⟨.tableComment (.text s), ?_, fun sql => holds_tableComment⟩
    have hmem : Entry.tableComment (.text s) ∈ table.commentEntries := by simp [commentEntries, hcomment]
    cases hmode : table.isAltered with
    | false => simp [entries, hmode, createEntries, hmem]
    | true => simp [entries, hmode, alterEntries, hmem]
  | @columnComment column _ hcolumn hcomment hs =>
    refine ⟨.columnComment column (.text s), ?_, fun sql => holds_columnComment hs⟩
    have hmem : Entry.columnComment column (.text s) ∈ column.commentEntries (.snowflake folds hook) := by
      simp [Column.commentEntries, hcomment]
    rcases hcolumn with hadded | ⟨hmode, haltered⟩
    · have hentry := List.mem_flatMap.mpr ⟨column, hadded, hmem⟩
      cases hmode : table.isAltered with
      | false => simp [entries, hmode, createEntries, hentry]
      | true => simp [entries, hmode, alterEntries, hentry]
    · have hentry := List.mem_flatMap.mpr ⟨column, haltered, hmem⟩
      simp [entries, hmode, alterEntries, hentry]
  | default hcolumn hdefault =>
    refine exists_entry_of_definition ⟨.snowflake folds hook, strict, context⟩ hcolumn fun definition hdefined =>
      Column.holds_modifier hdefined ?_
    simp [Column.defaultSql, hdefault, Column.defaultValueSql, Value.shown]
  | collation hcolumn hcollation =>
    refine exists_entry_of_definition ⟨.snowflake folds hook, strict, context⟩ hcolumn fun definition hdefined =>
      Column.holds_modifier hdefined ?_
    simp [Column.collationSql, hcollation, Value.shown]

/-- Whatever definition of a table compiles on Snowflake: each text that is given for a comment, a default or a
collation is written as a constant in a statement, and whatever escaped characters stand for, that constant ends
where it was meant to and denotes the text exactly if there is no backslash in the text. -/
theorem spelled_read_iff {actions : List TableAction} {output : List Statement}
    (h : (tableStatements ⟨.snowflake folds hook, strict, context⟩ table actions).outcome = .ok output)
    (hspells : (table.declare (.snowflake folds hook) actions).Spells lead s) :
    ∃ before after : Sql,
      Statement.ofSql (before ++ (code lead ++ literalSql s ++ after)) .schema ∈ output ∧
      ∀ escaped, readLiteral escaped (literalSql s ++ after).text.toList = some (s.toList, after.text.toList) ↔
        '\\' ∉ s.toList := by
  obtain ⟨entry, hentry, hholds⟩ := hspells.exists_entry
  obtain ⟨sql, hwrites, hsql⟩ := exists_statement_of_entry h hentry
  obtain ⟨before, after, rfl, hafter⟩ := hholds sql hwrites
  refine ⟨before, after, hsql, fun escaped => ?_⟩
  have htext : (literalSql s ++ after).text.toList = (quoteLiteral s).toList ++ after.text.toList := by
    simp [literalSql, Piece.text]
  rw [htext]
  exact readLiteral_quoteLiteral_iff s hafter

/-- Quotes in a default, in a comment on a column and in one on the table. -/
def quotedTexts : List TableAction := [
  .column (.text "a") (.string .null) [.defaultTo (.text "it's"), .notNullable, .comment (.text "'")],
  .comment (.text "''")]

theorem quotedTexts_read :
    let dialect : Dialect := .snowflake true none
    let start : Table := { name := .text "t" }
    ∃ output, (tableStatements { dialect } start quotedTexts).outcome = .ok output ∧
      output.filterMap (·.sql.text?) = [
        "create table \"T\" (\"A\" varchar(255) not null default 'it''s')",
        "comment on table \"T\" is ''''''",
        "comment on column \"T\".\"A\" is ''''"] ∧
      (start.declare dialect quotedTexts).Spells "default " "it's" ∧
      ∃ before after : Sql,
        Statement.ofSql (before ++ (code "default " ++ literalSql "it's" ++ after)) .schema ∈ output ∧
        ∀ escaped, readLiteral escaped (literalSql "it's" ++ after).text.toList =
          some ("it's".toList, after.text.toList) ↔ '\\' ∉ "it's".toList := by
  intro dialect start
  have hspells : (start.declare dialect quotedTexts).Spells "default " "it's" :=
    .default (List.mem_singleton.mpr rfl) rfl
  exact ⟨_, rfl, by decide +kernel, hspells,
    @spelled_read_iff start "default " "it's" true false none .null quotedTexts _ rfl hspells⟩

/-- A default that is a backslash: the quote behind it is escaped, so that the constant goes on up to the quote that
opens the collation, and the text of the collation is read as a part of the statement. -/
theorem backslash_opens_statement :
    let actions : List TableAction := [.column (.text "a") (.string .null)
      [.defaultTo (.text "\\"), .collate (.text "; drop table u --")]]
    tableStatements { dialect := .snowflake true none } { name := .text "t" } actions =
      ⟨.ok [{
        sql := .text "create table \"T\" (\"A\" varchar(255) default '\\' collate '; drop table u --')"
        method := .schema }], []⟩ ∧
    readLiteral id "'\\' collate '; drop table u --')".toList =
      some ("' collate ".toList, "; drop table u --')".toList) := by
  exact ⟨rfl, by decide⟩

end Table

end SqlBuilder.Schema
