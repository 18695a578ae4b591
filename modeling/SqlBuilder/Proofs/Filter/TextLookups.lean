import SqlBuilder.Proofs.Filter.Keys
import SqlBuilder.Proofs.Text.Patterns

/-!
Comparisons of a column with a text as a pattern. Main statement: what a lookup for a part of a text, or for a
text in any case, is meant to find is found, and nothing else is exactly if the text has no wildcard in it.
-/

namespace SqlBuilder.Filter

open Text

/-- A text in a column, of which a comparison with a pattern holds. -/
inductive Holds (casing : Casing) (column : String) (sql : Sql) (subject : List Char) : Prop
  | like {pattern : String} : sql.text = column ++ " like ?" → sql.bindings = [.text pattern] →
      Matches pattern.toList subject → Holds casing column sql subject
  | ilike {pattern : String} : sql.text = column ++ " ilike ?" → sql.bindings = [.text pattern] →
      Matches (casing.fold pattern.toList) (casing.fold subject) → Holds casing column sql subject

section

variable {casing : Casing} {column v : String} {comparison : Comparison} {sql : Sql} {subject : List Char}

theorem Compares.text (hne : comparison ≠ .member) (h : Compares column comparison (.text v) sql) :
    sql.text = column ++ (" " ++ comparison.operator ++ " ?") ∧
      sql.bindings = [boundOperand comparison (.text v)] := by
  obtain ⟨written, hwrites, htext⟩ := h
  generalize sql.bindings = bindings at hwrites ⊢
  cases hwrites with
  | members => exact absurd rfl hne
  | bound =>
    refine ⟨htext.trans ?_, rfl⟩
    rw [String.append_assoc, String.append_assoc]
    rfl

theorem holds_contains_iff (h : Compares column .contains (.text v) sql) :
    Holds casing column sql subject ↔ Matches (within v.toList) subject := by
  obtain ⟨htext, hbound⟩ := h.text (by decide)
  have hpattern : ("%" ++ v ++ "%").toList = within v.toList := by simp [within]
  rw [← hpattern]
  constructor
  · intro hholds
    cases hholds with
    | like _ hbindings hmatches =>
      rw [hbound] at hbindings
      cases hbindings
      exact hmatches
    | ilike hother =>
      exact absurd ((String.append_right_inj column).mp (htext.symm.trans hother)) (by decide)
  · exact .like htext hbound

theorem holds_exactAnyCase_iff (h : Compares column .exactAnyCase (.text v) sql) :
    Holds casing column sql subject ↔ Matches (casing.fold v.toList) (casing.fold subject) := by
  obtain ⟨htext, hbound⟩ := h.text (by decide)
  constructor
  · intro hholds
    cases hholds with
    | like hother =>
      exact absurd ((String.append_right_inj column).mp (htext.symm.trans hother)) (by decide)
    | ilike _ hbindings hmatches =>
      rw [hbound] at hbindings
      cases hbindings
      exact hmatches
  · exact .ilike htext hbound

end

/-! ### What is found -/

/-- A comparison holds of all texts that were asked for, and of no others exactly if there are no wildcards. -/
structure Finds (casing : Casing) (column : String) (sql : Sql) (v : List Char) (wanted : List Char → Prop) :
    Prop where
  all : ∀ subject, wanted subject → Holds casing column sql subject
  only_iff : (∀ subject, Holds casing column sql subject → wanted subject) ↔ IsPlain v

variable {casing : Casing} {column v : String} {sql : Sql}

theorem finds_contains (h : Compares column .contains (.text v) sql) :
    Finds casing column sql v.toList (v.toList <:+: ·) where
  all subject hinfix := (holds_contains_iff h).mpr (matches_within_of_part hinfix)
  only_iff := by
    constructor
    · intro honly
      by_contra hplain
      obtain ⟨before, w, after, hv, hw⟩ := exists_wildcard_of_not_plain hplain
      have hmatches : Matches (within v.toList) (before ++ otherWildcard w :: after) := by
        rw [hv]
        simpa using (matches_other hw (otherWildcard w) before after).within [] []
      have hinfix := honly _ ((holds_contains_iff h).mpr hmatches)
      rw [hv] at hinfix
      exact not_infix_other hw before after hinfix
    · exact fun hplain subject hholds => part_of_matches_within hplain ((holds_contains_iff h).mp hholds)

theorem finds_exactAnyCase (h : Compares column .exactAnyCase (.text v) sql) :
    Finds casing column sql v.toList (casing.fold v.toList = casing.fold ·) where
  all subject hsame := by
    rw [holds_exactAnyCase_iff h, hsame]
    exact matches_self _
  only_iff := by
    constructor
    · intro honly
      by_contra hplain
      obtain ⟨before, w, after, hv, hw⟩ := exists_wildcard_of_not_plain hplain
      obtain ⟨hmatches, hne⟩ := casing.matches_other hw before after
      rw [← hv] at hmatches hne
      exact hne (honly _ ((holds_exactAnyCase_iff h).mpr hmatches))
    · intro hplain subject hholds
      exact ((matches_iff_of_plain (casing.isPlain_fold hplain)).mp
        ((holds_exactAnyCase_iff h).mp hholds)).symm

variable {dialect : Dialect} {context : Value}

/-- Lookups for a part of a text and for a text in any case find what was asked for. That is all they find
exactly if the text has no wildcard in it. -/
theorem textLookups_find (casing : Casing) (hcolumn : ¬ MisleadsKey column) {name : Sql}
    (hname : (dialect.wrap column context).outcome = .ok name) (v : String) :
    ∃ containing same : Sql,
      (compileLookup dialect context (joinKey column .contains) (.text v)).outcome = .ok containing ∧
      (compileLookup dialect context (joinKey column .exactAnyCase) (.text v)).outcome = .ok same ∧
      Finds casing name.text containing v.toList (v.toList <:+: ·) ∧
      Finds casing name.text same v.toList (casing.fold v.toList = casing.fold ·) := by
  have hfound (comparison : Comparison) (hne : comparison ≠ .member) :
      ∃ sql, (compileLookup dialect context (joinKey column comparison) (.text v)).outcome = .ok sql ∧
        Compares name.text comparison (.text v) sql := by
    have hsuits : Suits comparison (.text v) := ⟨rfl, fun hmember => absurd hmember hne⟩
    obtain ⟨hcompiles, hcompares⟩ := joinKey_compiles_iff hname hsuits
    obtain ⟨sql, hsql⟩ := hcompiles.mpr hcolumn
    exact ⟨sql, hsql, hcompares sql hsql⟩
  obtain ⟨containing, hcontaining, hcontains⟩ := hfound .contains (by decide)
  obtain ⟨same, hsame, hequals⟩ := hfound .exactAnyCase (by decide)
  exact ⟨containing, same, hcontaining, hsame, finds_contains hcontains, finds_exactAnyCase hequals⟩

theorem textLookups_find_path :
    let dialect : Dialect := .snowflake true none
    let name : Sql := [.name "\"FILES\"", .code ".", .name "\"PATH\""]
    ¬ MisleadsKey "files.path" ∧ (dialect.wrap "files.path" .null).outcome = .ok name ∧
      ∃ containing same : Sql,
        (compileLookup dialect .null (joinKey "files.path" .contains) (.text "a/B")).outcome = .ok containing ∧
        (compileLookup dialect .null (joinKey "files.path" .exactAnyCase) (.text "a/B")).outcome = .ok same ∧
        Finds .unicode name.text containing "a/B".toList ("a/B".toList <:+: ·) ∧
        Finds .unicode name.text same "a/B".toList
          (Casing.unicode.fold "a/B".toList = Casing.unicode.fold ·) := by
  intro dialect name
  have hcolumn : ¬ MisleadsKey "files.path" := by decide +kernel
  have hname : (dialect.wrap "files.path" .null).outcome = .ok name := rfl
  exact ⟨hcolumn, hname, textLookups_find .unicode hcolumn hname "a/B"⟩

/-- The wildcards of a text that is looked for are wildcards of the pattern. -/
theorem wildcards_find_more :
    (∃ sql, (compileLookup (.ansi false) .null "name__contains" (.text "50%")).outcome = .ok sql ∧
      sql.text = "\"name\" like ?" ∧ sql.bindings = [.text "%50%%"] ∧
      Holds .unicode "\"name\"" sql "500".toList ∧ ¬ "50%".toList <:+: "500".toList) ∧
    ∃ sql, (compileLookup (.ansi false) .null "name__iexact" (.text "a_b")).outcome = .ok sql ∧
      sql.text = "\"name\" ilike ?" ∧ sql.bindings = [.text "a_b"] ∧
      Holds .unicode "\"name\"" sql "axb".toList ∧
      Casing.unicode.fold "a_b".toList ≠ Casing.unicode.fold "axb".toList := by
  have hcontains : Matches "%50%%".toList "500".toList := by decide
  have hpattern : Casing.unicode.fold "a_b".toList = ['a', '_', 'b'] := by decide +kernel
  have hsubject : Casing.unicode.fold "axb".toList = ['a', 'x', 'b'] := by decide +kernel
  have hsame : Matches (Casing.unicode.fold "a_b".toList) (Casing.unicode.fold "axb".toList) := by
    rw [hpattern, hsubject]
    decide
  refine ⟨⟨_, rfl, rfl, rfl, .like rfl rfl hcontains, by decide⟩,
    _, rfl, rfl, rfl, .ilike rfl rfl hsame, ?_⟩
  rw [hpattern, hsubject]
  decide

end SqlBuilder.Filter
