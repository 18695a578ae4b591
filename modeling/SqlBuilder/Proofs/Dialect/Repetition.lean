import SqlBuilder.Proofs.Dialect.Unquoting
import SqlBuilder.Proofs.Dialect.Written
import SqlBuilder.Proofs.Name.Quoted

/-!
What is written for a reference, given as a reference again. Main statements: it is parsed into what was
written for each identifier, so that nothing changes the second time, and a quoted reference stays as it is
if no separator stands inside its names.
-/

namespace SqlBuilder.Dialect

open Name

variable {dialect : Dialect}

theorem settled_identifierText (dialect : Dialect) (cs : List Char) : Settled (dialect.identifierText cs) :=
  settled_quoteChars _

theorem identifierText_of_settled {cs : List Char} (h : Settled cs) (dialect : Dialect) :
    dialect.identifierText cs = cs := by
  rcases h with rfl | hquoted
  · exact identifierText_star dialect
  · exact identifierText_of_quoted hquoted dialect

theorem holdsSeparator_of_stored {cs : List Char} (h : HoldsSeparator (dialect.stored cs)) :
    HoldsSeparator cs := by
  match dialect with
  | .ansi _ => exact h
  | .snowflake false _ => exact h
  | .snowflake true _ =>
    rw [stored] at h
    split at h
    · exact h
    · exact holdsSeparator_of_upperChars h

theorem holdsSeparator_of_identifierText {cs : List Char} (h : HoldsSeparator (dialect.identifierText cs)) :
    HoldsSeparator cs :=
  holdsSeparator_of_stored (holdsSeparator_quoteChars_iff.mp h)

theorem spelled_map (dialect : Dialect) (reference : Reference) :
    (dialect.referenceSql reference).text.toList = (reference.map dialect.identifierText).spelled := by
  rw [toList_text_referenceSql, Reference.spelled, Reference.map]
  cases reference.aliasName <;> rfl

theorem settled_of_mem_map {reference : Reference} {identifier : List Char}
    (h : identifier ∈ (reference.map dialect.identifierText).identifiers) : Settled identifier := by
  rw [Reference.identifiers_map] at h
  obtain ⟨given, -, rfl⟩ := List.mem_map.mp h
  exact settled_identifierText dialect given

/-- What is written for a parsed reference is parsed into what is written for each of its identifiers. -/
theorem parse_referenceSql (dialect : Dialect) (cs : List Char) :
    Reference.parse (dialect.referenceSql (Reference.parse cs)).text.toList =
      (Reference.parse cs).map dialect.identifierText := by
  rw [spelled_map]
  refine Reference.parse_spelled (areAtoms_identifierText (Reference.areAtoms_parse cs)) ?_
    fun _ => settled_of_mem_map
  intro atom hatom hholds
  obtain ⟨given, hgiven, rfl⟩ := List.mem_map.mp hatom
  exact Reference.not_holdsSeparator_parse hgiven (holdsSeparator_of_identifierText hholds)

theorem map_identifierText_of_settled {reference : Reference}
    (h : ∀ identifier ∈ reference.identifiers, Settled identifier) :
    reference.map dialect.identifierText = reference := by
  obtain ⟨atoms, aliasName⟩ := reference
  rw [Reference.identifiers, List.forall_mem_append] at h
  obtain ⟨hatoms, halias⟩ := h
  have hsame : atoms.map dialect.identifierText = atoms :=
    (List.map_congr_left fun atom hatom => identifierText_of_settled (hatoms atom hatom) dialect).trans
      (List.map_id' atoms)
  cases aliasName with
  | none => rw [Reference.map, hsame]; rfl
  | some name =>
    have hname := identifierText_of_settled (halias name (by simp)) dialect
    rw [Reference.map, hsame, Option.map_some, hname]

/-- What is written stays as it is when it is written again. -/
theorem wrap_idempotent (hookless : dialect.Hookless) (reference : String) (context : Value) :
    ∃ sql, (dialect.wrap reference context).outcome = .ok sql ∧
      ∃ again, (dialect.wrap sql.text context).outcome = .ok again ∧ again.text = sql.text := by
  refine ⟨_, wrap_outcome hookless reference, _, wrap_outcome hookless _, ?_⟩
  rw [written, written, ← String.toList_inj, parse_referenceSql, spelled_map, spelled_map,
    map_identifierText_of_settled fun _ => settled_of_mem_map]

/-- Folded, quoted and cut from its alias the first time, and left alone the second. -/
theorem wrap_idempotent_folded_alias :
    (Dialect.snowflake true none).Hookless ∧
      ∃ sql, ((Dialect.snowflake true none).wrap " a.\"b.c\".* AS d\"e" .null).outcome = .ok sql ∧
        ∃ again, ((Dialect.snowflake true none).wrap sql.text .null).outcome = .ok again ∧
          again.text = sql.text :=
  ⟨hookless_snowflake true, wrap_idempotent (hookless_snowflake true) _ _⟩

/-! ### References that stay as they are -/

theorem text_referenceSql_eq_iff (dialect : Dialect) (cs : List Char) :
    (dialect.referenceSql (Reference.parse cs)).text.toList = cs ↔ Kept cs := by
  constructor
  · intro h
    have hparse := parse_referenceSql dialect cs
    rw [h] at hparse
    refine ⟨fun identifier hidentifier => ?_, ?_⟩
    · rw [hparse] at hidentifier
      exact settled_of_mem_map hidentifier
    · rw [spelled_map, ← hparse] at h
      exact h
  · rintro ⟨hsettled, hspelled⟩
    rw [spelled_map, map_identifierText_of_settled hsettled, hspelled]

/-- Each name between quotes with its own quotes doubled, and dots between them. -/
def quotedReference (names : List String) : String :=
  String.ofList (List.intercalate ['.'] (names.map fun name => encloseChars name.toList))

theorem toList_quotedReference (names : List String) :
    (quotedReference names).toList = List.intercalate ['.'] ((names.map String.toList).map encloseChars) := by
  rw [quotedReference, String.toList_ofList, List.map_map]
  rfl

/-- Quoted names stay as they are if none of them holds a separator, and otherwise if nobody sees the cut. -/
theorem wrap_quotedReference_iff (hookless : dialect.Hookless) {names : List String} (hnames : names ≠ [])
    (context : Value) :
    ∃ sql, (dialect.wrap (quotedReference names) context).outcome = .ok sql ∧
      (sql.text = quotedReference names ↔
        (∀ name ∈ names, ¬ HoldsSeparator name.toList) ∨ CutUnseen (quotedReference names).toList) := by
  refine ⟨_, wrap_outcome hookless _, ?_⟩
  have hsplit := splitAtoms_join_encloseChars (mt List.map_eq_nil_iff.mp hnames : names.map String.toList ≠ [])
  rw [← toList_quotedReference] at hsplit
  rw [written, ← String.toList_inj, text_referenceSql_eq_iff, kept_iff_of_quotedNames hsplit,
    List.forall_mem_map]

/-- Dots, quotes and blanks in the names do no harm, and neither does the word without its blanks. -/
theorem wrap_quotedReference_dotted :
    (Dialect.snowflake true none).Hookless ∧ ["a.b", " c\"as\" "] ≠ [] ∧
      ∃ sql, ((Dialect.snowflake true none).wrap (quotedReference ["a.b", " c\"as\" "]) .null).outcome = .ok sql ∧
        (sql.text = quotedReference ["a.b", " c\"as\" "] ↔
          (∀ name ∈ ["a.b", " c\"as\" "], ¬ HoldsSeparator name.toList) ∨
            CutUnseen (quotedReference ["a.b", " c\"as\" "]).toList) :=
  ⟨hookless_snowflake true, by decide, wrap_quotedReference_iff (hookless_snowflake true) (by decide) _⟩

/-- The word between blanks is taken for an alias, although it stands between quotes. -/
theorem wrap_name_with_as :
    ¬ ∃ sql, ((Dialect.ansi false).wrap (quotedReference ["a as b"]) .null).outcome = .ok sql ∧
      sql.text = quotedReference ["a as b"] := by
  rintro ⟨sql, hsql, htext⟩
  rw [wrap_outcome (hookless_ansi false)] at hsql
  obtain rfl := Except.ok.inj hsql
  have hcut : ((Dialect.ansi false).written (quotedReference ["a as b"])).text = "\"\"\"a\" as \"b\"\"\"" := by
    rw [written]
    rfl
  rw [hcut] at htext
  revert htext
  decide

end SqlBuilder.Dialect
