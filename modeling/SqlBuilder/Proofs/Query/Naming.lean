import SqlBuilder.Proofs.Recorded.Outcome
import SqlBuilder.Proofs.Sql.Text
import SqlBuilder.Query.Compile

/-!
What names are made of when they are written. Main statement: they consist of identifiers and of a few marks
between them, whoever writes the identifiers, so that they bind nothing.
-/

namespace SqlBuilder

open Recorded

/-- What references and lists of them are written with. -/
def Piece.IsNaming : Piece → Prop
  | .code text => text ∈ [".", "*", " as ", ", "]
  | .name _ => True
  | _ => False

namespace Sql

theorem bindings_of_naming {sql : Sql} (h : ∀ piece ∈ sql, piece.IsNaming) : sql.bindings = [] := by
  rw [bindings, List.filterMap_eq_nil_iff]
  intro piece hpiece
  have hnaming := h piece hpiece
  cases piece with
  | slot value => cases hnaming
  | _ => rfl

theorem forall_mem_separated {p : Piece → Prop} {separator : String} (hseparator : p (.code separator))
    {parts : List Sql} (h : ∀ part ∈ parts, ∀ piece ∈ part, p piece) :
    ∀ piece ∈ separated separator parts, p piece := by
  induction parts with
  | nil => simp [separated]
  | cons part parts ih =>
    obtain ⟨hpart, hparts⟩ := List.forall_mem_cons.mp h
    cases parts with
    | nil => simpa using hpart
    | cons part' parts =>
      rw [separated_cons_cons, List.forall_mem_append, List.forall_mem_append]
      exact ⟨hpart, by simpa [code] using hseparator, ih hparts⟩

end Sql

namespace Dialect

variable {dialect : Dialect} {context : Value}

theorem naming_of_wrapName {name : List Char} {sql : Sql}
    (h : (dialect.wrapName name context).outcome = .ok sql) : ∀ piece ∈ sql, piece.IsNaming := by
  obtain ⟨written, -, h⟩ := bind_outcome_eq_ok.mp h
  obtain rfl := Except.ok.inj h
  simp [Piece.IsNaming]

theorem naming_of_wrapAtom {atom : List Char} {sql : Sql}
    (h : (dialect.wrapAtom atom context).outcome = .ok sql) : ∀ piece ∈ sql, piece.IsNaming := by
  rw [wrapAtom] at h
  split at h
  · obtain rfl := Except.ok.inj h
    simp [Sql.code, Piece.IsNaming]
  · exact naming_of_wrapName h

theorem naming_of_wrap {reference : String} {sql : Sql}
    (h : (dialect.wrap reference context).outcome = .ok sql) : ∀ piece ∈ sql, piece.IsNaming := by
  obtain ⟨atoms, hatoms, h⟩ := bind_outcome_eq_ok.mp h
  obtain ⟨parts, hparts, hjoined⟩ := bind_outcome_eq_ok.mp hatoms
  obtain rfl := Except.ok.inj hjoined
  have hnaming : ∀ piece ∈ Sql.separated "." parts, piece.IsNaming :=
    Sql.forall_mem_separated (by simp [Piece.IsNaming])
      (forall_mem_mapM hparts fun atom _ part hpart => naming_of_wrapAtom hpart)
  cases halias : (Name.Reference.parse reference.toList).aliasName with
  | none =>
    rw [halias] at h
    obtain rfl := Except.ok.inj h
    exact hnaming
  | some name =>
    rw [halias] at h
    obtain ⟨written, hwritten, h⟩ := bind_outcome_eq_ok.mp h
    obtain rfl := Except.ok.inj h
    rw [List.forall_mem_append, List.forall_mem_append]
    exact ⟨⟨hnaming, by simp [Sql.code, Piece.IsNaming]⟩, naming_of_wrapName hwritten⟩

theorem naming_of_wrapValue {value : Value} {sql : Sql}
    (h : (dialect.wrapValue value context).outcome = .ok sql) : ∀ piece ∈ sql, piece.IsNaming := by
  obtain ⟨reference, -, h⟩ := bind_outcome_eq_ok.mp h
  exact naming_of_wrap h

theorem naming_of_columnize {columns : List Value} {sql : Sql}
    (h : (dialect.columnize columns context).outcome = .ok sql) : ∀ piece ∈ sql, piece.IsNaming := by
  obtain ⟨parts, hparts, h⟩ := bind_outcome_eq_ok.mp h
  obtain rfl := Except.ok.inj h
  exact Sql.forall_mem_separated (by simp [Piece.IsNaming])
    (forall_mem_mapM hparts fun column _ part hpart => naming_of_wrapValue hpart)

end Dialect

namespace Query

theorem naming_of_tableSql {dialect : Dialect} {q : Query} {table : Sql}
    (h : (q.tableSql dialect).outcome = .ok table) : ∀ piece ∈ table, piece.IsNaming := by
  rw [tableSql] at h
  split at h
  · exact Dialect.naming_of_wrapValue h
  · cases h

end Query

end SqlBuilder
