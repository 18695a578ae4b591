import SqlBuilder.Proofs.Filter.Operands
import SqlBuilder.Proofs.Text.Cutting
import SqlBuilder.Query.Compile

/-!
Keys of lookups, in which a column and the name of a comparison are joined. Main statement: a key is read as
it was joined exactly if the column neither holds two underscores in a row nor ends with one; any other key
names no comparison.
-/

namespace SqlBuilder

namespace Comparison

/-- The name that a key tells a comparison by. -/
def lookupName : Comparison → String
  | .exact => "exact"
  | .notEqual => "ne"
  | .exactAnyCase => "iexact"
  | .greater => "gt"
  | .greaterOrEqual => "gte"
  | .less => "lt"
  | .lessOrEqual => "lte"
  | .contains => "contains"
  | .member => "in"

theorem named?_eq_some_iff {name : String} {comparison : Comparison} :
    named? name = some comparison ↔ name = comparison.lookupName := by
  constructor
  · intro h
    unfold named? at h
    split at h
    case h_10 => cases h
    all_goals obtain rfl := Option.some.inj h; rfl
  · rintro rfl
    cases comparison <;> rfl

theorem underscore_not_mem_lookupName (comparison : Comparison) : '_' ∉ comparison.lookupName.toList := by
  cases comparison <;> decide

end Comparison

namespace Filter

open Recorded

def joinKey (column : String) (comparison : Comparison) : String :=
  column ++ "__" ++ comparison.lookupName

/-- Behind the column there is a pair of underscores before the one that it is joined with. -/
def MisleadsKey (column : String) : Prop :=
  ['_', '_'] <:+: column.toList ∨ ['_'] <:+ column.toList

instance (column : String) : Decidable (MisleadsKey column) :=
  inferInstanceAs (Decidable (_ ∨ _))

theorem misleadsKey_iff {column : String} : MisleadsKey column ↔ ['_', '_'] <:+: column.toList ++ ['_'] := by
  have hlast : ['_', '_'] <:+ column.toList ++ ['_'] ↔ ['_'] <:+ column.toList := by
    rw [List.suffix_concat_iff]
    constructor
    · rintro (hnil | ⟨front, hpair, hsuffix⟩)
      · cases hnil
      · have hfront : ['_'] ++ ['_'] = front ++ ['_'] := hpair
        rwa [List.append_cancel_right hfront]
    · exact fun hsuffix => .inr ⟨['_'], rfl, hsuffix⟩
  rw [MisleadsKey, List.infix_concat_iff, hlast, or_comm]

variable {dialect : Dialect} {context : Value} {column : String} {comparison : Comparison}

theorem toList_joinKey (column : String) (comparison : Comparison) :
    (joinKey column comparison).toList = column.toList ++ '_' :: '_' :: comparison.lookupName.toList := by
  simp [joinKey]

theorem splitKey_joinKey (h : ¬ MisleadsKey column) (comparison : Comparison) :
    splitKey (joinKey column comparison) = (column, comparison.lookupName) := by
  rw [misleadsKey_iff] at h
  rcases Text.cutAtMark?_pair '_' column.toList comparison.lookupName.toList with ⟨-, hcut⟩ | ⟨hpair, -⟩
  · rw [splitKey, toList_joinKey, hcut]
    simp
  · exact absurd hpair h

/-- A name that an underscore has got into is none. -/
theorem named?_of_misleadsKey (h : MisleadsKey column) (comparison : Comparison) :
    Comparison.named? (splitKey (joinKey column comparison)).2 = none := by
  rw [misleadsKey_iff] at h
  rcases Text.cutAtMark?_pair '_' column.toList comparison.lookupName.toList with
    ⟨hnone, -⟩ | ⟨-, before, after, hcut, hmem⟩
  · exact absurd h hnone
  · rw [splitKey, toList_joinKey, hcut, Option.eq_none_iff_forall_ne_some]
    intro other hother
    have hname : String.ofList after = other.lookupName := Comparison.named?_eq_some_iff.mp hother
    have hunderscore := other.underscore_not_mem_lookupName
    rw [← hname, String.toList_ofList] at hunderscore
    exact hunderscore hmem

/-- A key that is joined of a column and a comparison leads to that comparison of that column and to nothing
else, and it does so exactly if no pair of underscores comes up before the one that they are joined by. -/
theorem joinKey_compiles_iff {name : Sql} (hname : (dialect.wrap column context).outcome = .ok name)
    {operand : Value} (hsuits : Suits comparison operand) :
    ((∃ sql, (compileLookup dialect context (joinKey column comparison) operand).outcome = .ok sql) ↔
      ¬ MisleadsKey column) ∧
    ∀ sql, (compileLookup dialect context (joinKey column comparison) operand).outcome = .ok sql →
      Compares name.text comparison operand sql := by
  by_cases hmisleads : MisleadsKey column
  · have hnone := named?_of_misleadsKey hmisleads comparison
    have hfails : ∀ sql,
        (compileLookup dialect context (joinKey column comparison) operand).outcome ≠ .ok sql := by
      intro sql hsql
      obtain ⟨found, -, hfound, -⟩ := compileLookup_compares hsuits.1 hsql
      rw [hnone] at hfound
      cases hfound
    exact ⟨iff_of_false (fun ⟨sql, hsql⟩ => hfails sql hsql) (fun h => h hmisleads),
      fun sql hsql => absurd hsql (hfails sql)⟩
  · have hsplit := splitKey_joinKey hmisleads comparison
    have hnamed : Comparison.named? (splitKey (joinKey column comparison)).2 = some comparison := by
      rw [hsplit]
      exact Comparison.named?_eq_some_iff.mpr rfl
    have hcolumn : (dialect.wrap (splitKey (joinKey column comparison)).1 context).outcome = .ok name := by
      rw [hsplit]
      exact hname
    obtain ⟨sql, hsql, hcompares⟩ := exists_compileLookup hcolumn hnamed hsuits
    refine ⟨iff_of_true ⟨sql, hsql⟩ hmisleads, fun other hother => ?_⟩
    obtain rfl := Except.ok.inj (hsql.symm.trans hother)
    exact hcompares

/-- The rows in which a column whose name has an underscore is one of two things. -/
theorem joinKey_unit_price :
    let dialect : Dialect := .snowflake true none
    let name : Sql := [.name "\"UNIT_PRICE\""]
    let operand : Value := .list [.int 3, .text "4"]
    (dialect.wrap "unit_price" .null).outcome = .ok name ∧ Suits .member operand ∧
      ((∃ sql, (compileLookup dialect .null (joinKey "unit_price" .member) operand).outcome = .ok sql) ↔
        ¬ MisleadsKey "unit_price") ∧
      ∀ sql, (compileLookup dialect .null (joinKey "unit_price" .member) operand).outcome = .ok sql →
        Compares name.text .member operand sql := by
  intro dialect name operand
  have hname : (dialect.wrap "unit_price" .null).outcome = .ok name := rfl
  have hsuits : Suits .member operand := ⟨rfl, fun _ => ⟨_, rfl, List.cons_ne_nil _ _⟩⟩
  exact ⟨hname, hsuits, joinKey_compiles_iff hname hsuits⟩

/-- The column `price_` cannot be compared, though it is written and the operand suits. -/
theorem trailing_underscore_misread :
    let dialect : Dialect := .ansi false
    let q := (Query.on (.text "t")).filterBy [(joinKey "price_" .greater, .int 1)]
    (dialect.wrap "price_" .null).outcome = .ok [.name "\"price_\""] ∧ Suits .greater (.int 1) ∧
      (q.compile dialect).outcome = .error (.lookupUnsupported "_gt") :=
  ⟨rfl, ⟨rfl, fun h => by cases h⟩, rfl⟩

end Filter

end SqlBuilder
