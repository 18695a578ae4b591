import SqlBuilder.Proofs.Dialect.Hooked
import SqlBuilder.Proofs.Filter.Lookups

/-!
Conditions whose columns a hook writes. Main statement: the hook is called for the columns of the lookups in
the order in which they stand, and what it answers stands in the comparison of each.
-/

namespace SqlBuilder

open Outline Recorded

namespace Filter

/-- What follows the column in a comparison that can be made. -/
def testText (comparison : String) (operand : Value) : String :=
  match comparisonTest comparison operand with
  | .ok test => test.text
  | .error _ => ""

def lookupOutline (key : String) (operand : Value) : Outline :=
  ofName (splitKey key).1 ++ Outline.text (testText (splitKey key).2 operand)

def joinOutlines (connector : Connector) (negated : Bool) (parts : List Outline) : Outline :=
  match parts with
  | [] => []
  | part :: parts =>
    let joined := Outline.separated (" " ++ connector.word ++ " ") (part :: parts)
    if negated then Outline.text "not " ++ joined.enclosed else joined

/-- What a child adds to its node: nothing if it holds no lookup, and parentheses if it is a node. -/
def childOutline (child : Filter) (part : Outline) : List Outline :=
  match child, part with
  | _, [] => []
  | .node .., part => [part.enclosed]
  | _, part => [part]

mutual

/-- The condition of a filter, with the places of its columns left open. -/
def outline : Filter → Outline
  | .lookup key operand => lookupOutline key operand
  | .other _ => []
  | .node connector negated children => joinOutlines connector negated (outlineEach children)
termination_by structural filter => filter

def outlineEach : List Filter → List Outline
  | [] => []
  | child :: children => childOutline child (outline child) ++ outlineEach children
termination_by structural children => children

end

theorem identifiers_joinOutlines (connector : Connector) (negated : Bool) (parts : List Outline) :
    (joinOutlines connector negated parts).identifiers = parts.flatMap Outline.identifiers := by
  cases parts with
  | nil => rfl
  | cons part parts => cases negated <;> simp [joinOutlines]

theorem identifiers_childOutline (child : Filter) (part : Outline) :
    (childOutline child part).flatMap Outline.identifiers = part.identifiers := by
  cases part with
  | nil => cases child <;> rfl
  | cons first part => cases child <;> simp [childOutline]

mutual

/-- The identifiers in an outline are those of the lookups, in their order. -/
theorem identifiers_outline : ∀ filter : Filter,
    filter.outline.identifiers = filter.lookups.flatMap fun lookup => Name.identifiersIn (splitKey lookup.1).1
  | .lookup key operand => by simp [outline, lookupOutline, lookups]
  | .other value => rfl
  | .node connector negated children => by
    rw [outline, identifiers_joinOutlines, identifiers_outlineEach children, lookups]
termination_by structural filter => filter

theorem identifiers_outlineEach : ∀ children : List Filter,
    (outlineEach children).flatMap Outline.identifiers =
      (lookupsOf children).flatMap fun lookup => Name.identifiersIn (splitKey lookup.1).1
  | [] => rfl
  | child :: children => by
    rw [outlineEach, List.flatMap_append, identifiers_childOutline, identifiers_outline child,
      identifiers_outlineEach children, lookupsOf, List.flatMap_append]
termination_by structural children => children

end

variable {folds : Bool} {hook : Hook} {context : Value} {calls : List (Value × Value)}

theorem answered_compileLookup {key : String} {operand : Value} {sql : Sql}
    (h : (compileLookup (.snowflake folds (some hook)) context key operand).Gives sql calls) :
    Answered hook context (lookupOutline key operand) sql.text calls := by
  obtain ⟨column, first, rest, hcolumn, hend, rfl⟩ := gives_bind h
  obtain ⟨test, second, last, htest, hjoined, rfl⟩ := gives_bind hend
  obtain ⟨hcompared, rfl⟩ := gives_ofExcept htest
  obtain ⟨rfl, rfl⟩ := gives_pure hjoined
  have htext : testText (splitKey key).2 operand = test.text := by
    rw [testText, show comparisonTest (splitKey key).2 operand = .ok test from hcompared]
  rw [lookupOutline, htext, Sql.text_append, List.append_nil, List.append_nil]
  exact (Dialect.answered_wrap hcolumn).before_text test.text

/-- The condition is filled in, and there is one exactly if there is an outline of one. -/
structure Filled (hook : Hook) (context : Value) (outline : Outline) (condition : Condition)
    (calls : List (Value × Value)) : Prop where
  answered : Answered hook context outline condition.sql.text calls
  nil_iff : outline = [] ↔ condition = []

/-- None of the parts is empty. -/
inductive FilledEach (hook : Hook) (context : Value) :
    List Outline → List Condition → List (Value × Value) → Prop
  | nil : FilledEach hook context [] [] []
  | cons {outline : Outline} {outlines : List Outline} {part : Condition} {parts : List Condition}
      {first rest : List (Value × Value)} :
      Answered hook context outline part.sql.text first → outline ≠ [] → part ≠ [] →
      FilledEach hook context outlines parts rest →
      FilledEach hook context (outline :: outlines) (part :: parts) (first ++ rest)

theorem FilledEach.append {as bs : List Outline} {xs ys : List Condition} {first rest : List (Value × Value)}
    (ha : FilledEach hook context as xs first) (hb : FilledEach hook context bs ys rest) :
    FilledEach hook context (as ++ bs) (xs ++ ys) (first ++ rest) := by
  induction ha with
  | nil => exact hb
  | cons hpart houtline hne _ ih =>
    rw [List.append_assoc]
    exact .cons hpart houtline hne ih

theorem sql_enclosed (condition : Condition) :
    condition.enclosed.sql.text = "(" ++ condition.sql.text ++ ")" := by
  have hsql : condition.enclosed.sql = Sql.code "(" ++ (condition.sql ++ Sql.code ")") := by
    change Condition.sql (.openParen :: (condition ++ [.closeParen])) = _
    rw [Condition.sql, List.flatMap_cons, List.flatMap_append]
    rfl
  rw [hsql, Sql.text_append, Sql.text_append, Sql.text_code, Sql.text_code, String.append_assoc]

theorem FilledEach.answered_joinParts {outlines : List Outline} {parts : List Condition}
    (h : FilledEach hook context outlines parts calls) (connector : Connector) :
    Answered hook context (Outline.separated (" " ++ connector.word ++ " ") outlines)
      (Condition.sql (joinParts connector parts)).text calls := by
  induction h with
  | nil => exact .nil
  | @cons outline outlines part parts first rest hpart _ _ hrest ih =>
    cases hrest with
    | nil => simpa using hpart
    | cons _ _ _ _ =>
      have hsql : ∀ others : Condition, (Condition.sql (part ++ .connector connector :: others)).text =
          part.sql.text ++ ((" " ++ connector.word ++ " ") ++ (Condition.sql others).text) := by
        intro others
        rw [Condition.sql, List.flatMap_append, List.flatMap_cons, Sql.text_append, Sql.text_append]
        change _ ++ ((Sql.code (" " ++ connector.word ++ " ")).text ++ _) = _
        rw [Sql.text_code]
        rfl
      rw [Outline.separated_cons_cons, Condition.joinParts_cons_cons, hsql]
      exact hpart.append (ih.after_text _)

theorem FilledEach.filled {outlines : List Outline} {parts : List Condition}
    (h : FilledEach hook context outlines parts calls) (connector : Connector) (negated : Bool) :
    Filled hook context (joinOutlines connector negated outlines) (.ofParts connector negated parts) calls := by
  have hjoined := h.answered_joinParts connector
  cases h with
  | nil => exact ⟨.nil, by simp [joinOutlines, Condition.ofParts]⟩
  | @cons outline outlines part parts first rest _ houtline hne _ =>
    cases negated with
    | false =>
      refine ⟨hjoined, iff_of_false (Outline.separated_ne_nil _ houtline _) ?_⟩
      cases parts with
      | nil => simpa [Condition.ofParts] using hne
      | cons part' parts => simp [Condition.ofParts, Condition.joinParts_cons_cons, hne]
    | true =>
      have hsql : (Condition.sql (.not :: Condition.enclosed (joinParts connector (part :: parts)))).text =
          "not " ++ ("(" ++ (Condition.sql (joinParts connector (part :: parts))).text ++ ")") := by
        rw [Condition.sql, List.flatMap_cons, Sql.text_append, ← sql_enclosed]
        change (Sql.code "not ").text ++ _ = _
        rw [Sql.text_code]
        rfl
      refine ⟨?_, iff_of_false (by simp [joinOutlines, Outline.text]) (by simp [Condition.ofParts])⟩
      change Answered hook context _ (Condition.sql (.not :: _)).text _
      rw [hsql]
      exact hjoined.enclosed.after_text "not "

theorem filledEach_child (child : Filter) {outline : Outline} {part : Condition}
    (h : Filled hook context outline part calls) :
    FilledEach hook context (childOutline child outline) (enclosePart child part) calls := by
  obtain ⟨hanswered, hnil⟩ := h
  by_cases hpart : part = []
  · obtain rfl := hnil.mpr hpart
    subst hpart
    cases hanswered
    cases child <;> exact .nil
  · have houtline : outline ≠ [] := mt hnil.mp hpart
    obtain ⟨token, part, rfl⟩ := List.exists_cons_of_ne_nil hpart
    obtain ⟨first, outline, rfl⟩ := List.exists_cons_of_ne_nil houtline
    have hone : ∀ {o : Outline} {c : Condition}, Answered hook context o c.sql.text calls → o ≠ [] → c ≠ [] →
        FilledEach hook context [o] [c] calls := by
      intro o c hfilled ho hc
      simpa using FilledEach.cons hfilled ho hc .nil
    cases child with
    | lookup key operand => exact hone hanswered houtline hpart
    | other value => exact hone hanswered houtline hpart
    | node connector negated children =>
      refine hone ?_ (by simp [Outline.enclosed, Outline.text]) (by simp [Condition.enclosed])
      rw [sql_enclosed]
      exact hanswered.enclosed

theorem gives_compile_node {dialect : Dialect} {connector : Connector} {negated : Bool} {children : List Filter}
    {condition : Condition}
    (h : (compile dialect context (.node connector negated children)).Gives condition calls) :
    ∃ parts, (compileEach dialect context children).Gives parts calls ∧
      condition = .ofParts connector negated parts := by
  rw [compile] at h
  obtain ⟨parts, first, rest, hparts, hend, rfl⟩ := gives_bind h
  refine ⟨parts, ?_⟩
  cases parts with
  | nil =>
    obtain ⟨rfl, rfl⟩ := gives_pure hend
    rw [List.append_nil]
    exact ⟨hparts, rfl⟩
  | cons part parts =>
    obtain ⟨rfl, rfl⟩ := gives_pure hend
    rw [List.append_nil]
    exact ⟨hparts, rfl⟩

mutual

theorem filled_compile : ∀ (filter : Filter) {condition : Condition} {calls : List (Value × Value)},
    (compile (.snowflake folds (some hook)) context filter).Gives condition calls →
      Filled hook context filter.outline condition calls
  | .lookup key operand => by
    intro h
    obtain ⟨sql, first, rest, hsql, hend, rfl⟩ := gives_bind h
    obtain ⟨rfl, rfl⟩ := gives_pure hend
    have hanswered := answered_compileLookup hsql
    refine ⟨?_, iff_of_false (by simp [outline, lookupOutline, Outline.text]) (by simp)⟩
    simpa [outline, Condition.sql, ConditionToken.sql] using hanswered
  | .other value => by
    intro h
    obtain ⟨⟨⟩, first, rest, hcheck, hend, rfl⟩ := gives_bind h
    obtain ⟨-, rfl⟩ := gives_ofExcept hcheck
    obtain ⟨rfl, rfl⟩ := gives_pure hend
    exact ⟨.nil, iff_of_true rfl rfl⟩
  | .node connector negated children => by
    intro h
    obtain ⟨parts, hparts, rfl⟩ := gives_compile_node h
    exact (filledEach_compileEach children hparts).filled connector negated
termination_by structural filter => filter

theorem filledEach_compileEach : ∀ (children : List Filter) {parts : List Condition}
    {calls : List (Value × Value)},
    (compileEach (.snowflake folds (some hook)) context children).Gives parts calls →
      FilledEach hook context (outlineEach children) parts calls
  | [] => by
    intro h
    obtain ⟨rfl, rfl⟩ := gives_pure h
    exact .nil
  | child :: children => by
    intro h
    obtain ⟨part, first, rest, hpart, htail, rfl⟩ := gives_bind h
    obtain ⟨others, second, last, hothers, hend, rfl⟩ := gives_bind htail
    obtain ⟨rfl, rfl⟩ := gives_pure hend
    rw [List.append_nil]
    exact (filledEach_child child (filled_compile child hpart)).append (filledEach_compileEach children hothers)
termination_by structural children => children

end

end Filter

end SqlBuilder
