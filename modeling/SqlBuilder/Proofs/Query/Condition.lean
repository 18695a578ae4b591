import SqlBuilder.Proofs.Filter.Lookups
import SqlBuilder.Query.Compile

/-!
The condition of a query. Main statement: there is none without lookups, and else it is that of the filter.
-/

namespace SqlBuilder.Query

open Recorded

def lookups (q : Query) : List (String × Value) :=
  q.filter.elim [] Filter.lookups

theorem lookups_of_filter {q : Query} {filter : Filter} (h : q.filter = some filter) :
    q.lookups = filter.lookups := by
  rw [lookups, h]
  rfl

theorem whereSql_eq_ok {dialect : Dialect} {q : Query} {parts : List Sql}
    (h : (q.whereSql dialect).outcome = .ok parts) :
    (q.lookups = [] ∧ parts = []) ∨
      ∃ filter condition, q.filter = some filter ∧
        (filter.compile dialect q.context).outcome = .ok condition ∧ condition ≠ [] ∧
        parts = [Sql.code "where " ++ Condition.sql condition] := by
  unfold whereSql at h
  split at h
  · next hfilter =>
    obtain rfl := Except.ok.inj h
    left
    rw [lookups, hfilter]
    exact ⟨rfl, rfl⟩
  · cases h
  · next filter _ hfilter =>
    obtain ⟨condition, hcondition, hparts⟩ := bind_outcome_eq_ok.mp h
    cases condition with
    | nil =>
      obtain rfl := Except.ok.inj hparts
      have hnone := List.forall₂_nil_right_iff.mp (Filter.operands_of_compile filter hcondition)
      exact .inl ⟨(lookups_of_filter hfilter).trans hnone, rfl⟩
    | cons token condition =>
      obtain rfl := Except.ok.inj hparts
      exact .inr ⟨filter, _, hfilter, hcondition, List.cons_ne_nil _ _, rfl⟩

end SqlBuilder.Query
