import SqlBuilder.Proofs.Filter.Meaning
import SqlBuilder.Proofs.Query.Condition

/-!
Queries restricted by a chain of calls. Main statement: the condition that is compiled reads in one way,
and that is the conjunction of what the calls ask for.
-/

namespace SqlBuilder

variable {α : Type}

namespace Filter

variable (logic : Logic α) (truth : String → Value → α)

theorem eval_of_isEmpty {filter : Filter} (h : filter.isEmpty = true) : filter.eval logic truth = none := by
  cases filter with
  | lookup key operand => cases h
  | other value => cases h
  | node connector negated children =>
    obtain rfl := List.isEmpty_iff.mp h
    cases negated <;> rfl

theorem eval_combine (connector : Connector) (x y : Filter) :
    (combine connector x y).eval logic truth =
      logic.joinAll connector ((x.eval logic truth).toList ++ (y.eval logic truth).toList) := by
  unfold combine
  split
  · next hx => rw [eval_of_isEmpty logic truth hx, Option.toList_none, List.nil_append, Logic.joinAll_toList]
  · split
    · next hy => rw [eval_of_isEmpty logic truth hy, Option.toList_none, List.append_nil, Logic.joinAll_toList]
    · simp [eval, evalEach]

theorem evalEach_lookups (lookups : Row) :
    evalEach logic truth (lookups.map fun (key, operand) => .lookup key operand) =
      lookups.map fun lookup => truth lookup.1 lookup.2 := by
  induction lookups with
  | nil => rfl
  | cons lookup lookups ih =>
    rw [List.map_cons, List.map_cons, evalEach, ih]
    rfl

theorem eval_all (lookups : Row) :
    (all [] lookups).eval logic truth =
      logic.joinAll .and (lookups.map fun lookup => truth lookup.1 lookup.2) := by
  rw [all, List.nil_append, eval, evalEach_lookups]
  rfl

theorem eval_negate_all (lookups : Row) :
    (all [] lookups).negate.eval logic truth =
      (logic.joinAll .and (lookups.map fun lookup => truth lookup.1 lookup.2)).map logic.not := by
  rw [all, negate, List.nil_append, eval, evalEach_lookups]
  rfl

end Filter

/-- A call that restricts a query. -/
inductive Restriction where
  | filterBy (lookups : Row)
  | exclude (lookups : Row)
  | whereFilter (filter : Filter)

/-- What a restriction says by itself: a conjunction, the negation of one, or a filter. -/
def Restriction.eval (logic : Logic α) (truth : String → Value → α) : Restriction → Option α
  | filterBy lookups => logic.joinAll .and (lookups.map fun lookup => truth lookup.1 lookup.2)
  | exclude lookups => (logic.joinAll .and (lookups.map fun lookup => truth lookup.1 lookup.2)).map logic.not
  | whereFilter filter => filter.eval logic truth

namespace Query

open Condition SqlBuilder.Filter Recorded

def restrict (q : Query) : Restriction → Query
  | .filterBy lookups => q.filterBy lookups
  | .exclude lookups => q.exclude lookups
  | .whereFilter filter => q.whereFilter filter

/-- The truth value of the filter of a query, none if it holds no lookup. -/
def evalFilter (q : Query) (logic : Logic α) (truth : String → Value → α) : Option α :=
  q.filter.bind (Filter.eval logic truth)

theorem context_whereFilter (filter : Filter) (q : Query) : (q.whereFilter filter).context = q.context := by
  unfold whereFilter
  split <;> rfl

theorem context_foldl_restrict (calls : List Restriction) (q : Query) :
    (calls.foldl restrict q).context = q.context := by
  induction calls generalizing q with
  | nil => rfl
  | cons call calls ih =>
    rw [List.foldl_cons, ih]
    cases call <;> exact context_whereFilter _ q

section

variable (logic : Logic α) (truth : String → Value → α)

theorem evalFilter_whereFilter (filter : Filter) (q : Query) :
    (q.whereFilter filter).evalFilter logic truth =
      logic.joinAll .and ((q.evalFilter logic truth).toList ++ (filter.eval logic truth).toList) := by
  unfold whereFilter
  cases hold : q.filter with
  | none =>
    rw [evalFilter, evalFilter, hold]
    exact (Logic.joinAll_toList logic .and _).symm
  | some old =>
    rw [evalFilter, evalFilter, hold]
    change Filter.eval logic truth (if old.isEmpty then filter else combine .and old filter) = _
    rw [Option.bind_some, ← eval_combine]
    split
    · next hempty => rw [combine, if_pos hempty]
    · rfl

theorem evalFilter_restrict (call : Restriction) (q : Query) :
    (q.restrict call).evalFilter logic truth =
      logic.joinAll .and ((q.evalFilter logic truth).toList ++ (call.eval logic truth).toList) := by
  cases call with
  | filterBy lookups =>
    rw [restrict, filterBy, evalFilter_whereFilter, eval_all]
    rfl
  | exclude lookups =>
    rw [restrict, exclude, evalFilter_whereFilter, eval_negate_all]
    rfl
  | whereFilter filter => exact evalFilter_whereFilter logic truth filter q

/-- Every call is added to what was asked for before it. -/
theorem evalFilter_foldl_restrict (calls : List Restriction) (q : Query) :
    (calls.foldl restrict q).evalFilter logic truth =
      logic.joinAll .and ((q.evalFilter logic truth).toList ++ calls.filterMap (Restriction.eval logic truth)) := by
  induction calls generalizing q with
  | nil => rw [List.foldl_nil, List.filterMap_nil, List.append_nil, Logic.joinAll_toList]
  | cons call calls ih =>
    rw [List.foldl_cons, ih, evalFilter_restrict, Logic.joinAll_append, List.append_assoc]
    cases hcall : call.eval logic truth with
    | none => rw [List.filterMap_cons_none hcall]; rfl
    | some v => rw [List.filterMap_cons_some hcall]; rfl

end

/-- The condition of a query reads as the filter. -/
theorem reads_whereSql {dialect : Dialect} {q : Query} {parts : List Sql}
    (h : (q.whereSql dialect).outcome = .ok parts) :
    (q.lookups = [] ∧ parts = []) ∨
      ∃ condition e, parts = [Sql.code "where " ++ Condition.sql condition] ∧
        List.Forall₂ (fun lookup sql => (compileLookup dialect q.context lookup.1 lookup.2).outcome = .ok sql)
          q.lookups condition.operands ∧
        Reads .disjunction condition e ∧ q.filter.bind (expression dialect q.context) = some e := by
  rcases whereSql_eq_ok h with hnone | ⟨filter, condition, hfilter, hcondition, hne, hparts⟩
  · exact .inl hnone
  have hoperands := operands_of_compile filter hcondition
  have hreads := reads_compile filter hcondition
  cases hvalue : filter.expression dialect q.context with
  | none =>
    rw [hvalue] at hreads
    exact absurd hreads hne
  | some e =>
    rw [hvalue] at hreads
    rw [lookups_of_filter hfilter, hfilter]
    exact .inr ⟨condition, e, hparts, hoperands, hreads, hvalue⟩

/-- Whatever the filter of a query and the calls that restrict it further: if its condition is compiled,
there is none without lookups, and else it is read in one way only, and means the filter, which is the
conjunction of what it was before and of what the calls say one by one. -/
theorem whereSql_means_conjunction {dialect : Dialect} {q : Query} {calls : List Restriction}
    {parts : List Sql} (h : ((calls.foldl restrict q).whereSql dialect).outcome = .ok parts) :
    ((calls.foldl restrict q).lookups = [] ∧ parts = []) ∨
      ∃ condition e, parts = [Sql.code "where " ++ Condition.sql condition] ∧
        List.Forall₂ (fun lookup sql => (compileLookup dialect q.context lookup.1 lookup.2).outcome = .ok sql)
          (calls.foldl restrict q).lookups condition.operands ∧
        Reads .disjunction condition e ∧ (∀ f, Reads .disjunction condition f → f = e) ∧
        ∀ (α : Type) (logic : Logic α) (truth : Sql → α),
          let holds key operand := truth (comparisonOf dialect q.context key operand)
          (calls.foldl restrict q).evalFilter logic holds = some (e.eval logic truth) ∧
          logic.joinAll .and
            ((q.evalFilter logic holds).toList ++ calls.filterMap (Restriction.eval logic holds)) =
              some (e.eval logic truth) := by
  rcases reads_whereSql h with hnone | ⟨condition, e, hparts, hoperands, hreads, hvalue⟩
  · exact .inl hnone
  rw [context_foldl_restrict] at hoperands hvalue
  refine .inr ⟨condition, e, hparts, hoperands, hreads, fun f hf => hf.unique hreads, ?_⟩
  intro α logic truth holds
  have hfilter : (calls.foldl restrict q).evalFilter logic holds = some (e.eval logic truth) := by
    obtain ⟨filter, hfilter, hexpression⟩ := Option.bind_eq_some_iff.mp hvalue
    rw [evalFilter, hfilter, Option.bind_some, eval_eq_expression, hexpression]
    rfl
  refine ⟨hfilter, ?_⟩
  rw [← evalFilter_foldl_restrict, hfilter]

/-- Two conditions, an exclusion, and a filter with a negated node that holds nothing. -/
def mixedCalls : List Restriction :=
  [.filterBy [("a", .int 1), ("b__gt", .int 2)], .exclude [("c", .null)],
    .whereFilter (.node .or false
      [.node .and true [], .lookup "d" (.int 3), .node .and true [.lookup "e" (.int 4)]])]

theorem mixedCalls_means_conjunction :
    ∃ parts, ((mixedCalls.foldl restrict (.on (.text "t"))).whereSql (.ansi false)).outcome = .ok parts ∧
      (((mixedCalls.foldl restrict (.on (.text "t"))).lookups = [] ∧ parts = []) ∨
      ∃ condition e, parts = [Sql.code "where " ++ Condition.sql condition] ∧
        List.Forall₂ (fun lookup sql => (compileLookup (.ansi false) .null lookup.1 lookup.2).outcome = .ok sql)
          (mixedCalls.foldl restrict (.on (.text "t"))).lookups condition.operands ∧
        Reads .disjunction condition e ∧ (∀ f, Reads .disjunction condition f → f = e) ∧
        ∀ (α : Type) (logic : Logic α) (truth : Sql → α),
          let holds key operand := truth (comparisonOf (.ansi false) .null key operand)
          (mixedCalls.foldl restrict (.on (.text "t"))).evalFilter logic holds = some (e.eval logic truth) ∧
          logic.joinAll .and (((on (.text "t")).evalFilter logic holds).toList ++
            mixedCalls.filterMap (Restriction.eval logic holds)) = some (e.eval logic truth)) :=
  ⟨_, rfl, @whereSql_means_conjunction (.ansi false) (.on (.text "t")) mixedCalls _ rfl⟩

end Query

end SqlBuilder
