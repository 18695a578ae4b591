import SqlBuilder.Filter.Condition

/-!
Conditions as a database reads them: `not` binds before `and`, and `and` before `or`. Main statement: a
condition has at most one reading.
-/

namespace SqlBuilder

/-- Truth values and what the words of a condition do to them. Nothing is asked of the operations, so that
they may be those of two truth values as well as those with a third one for what is unknown. -/
structure Logic (α : Type) where
  and : α → α → α
  or : α → α → α
  not : α → α

namespace Logic

def bool : Logic Bool where
  and := Bool.and
  or := Bool.or
  not := Bool.not

def join {α : Type} (logic : Logic α) : Connector → α → α → α
  | .and => logic.and
  | .or => logic.or

end Logic

namespace Condition

inductive Expression where
  | comparison (sql : Sql)
  | not (e : Expression)
  | joined (connector : Connector) (left right : Expression)

/-- The truth value of an expression, given those of the comparisons. -/
def Expression.eval {α : Type} (logic : Logic α) (truth : Sql → α) : Expression → α
  | comparison sql => truth sql
  | not e => logic.not (e.eval logic truth)
  | joined connector left right => logic.join connector (left.eval logic truth) (right.eval logic truth)

/-- How tightly an expression holds together. -/
inductive Level where
  | factor | conjunction | disjunction

/-- The grammar of conditions. -/
inductive Reads : Level → Condition → Expression → Prop
  | comparison {sql : Sql} : Reads .factor [.operand sql] (.comparison sql)
  | parens {c : Condition} {e : Expression} : Reads .disjunction c e → Reads .factor c.enclosed e
  | not {c : Condition} {e : Expression} : Reads .factor c e → Reads .factor (.not :: c) (.not e)
  | factor {c : Condition} {e : Expression} : Reads .factor c e → Reads .conjunction c e
  | and {a b : Condition} {e f : Expression} : Reads .conjunction a e → Reads .factor b f →
      Reads .conjunction (a ++ .connector .and :: b) (.joined .and e f)
  | conjunction {c : Condition} {e : Expression} : Reads .conjunction c e → Reads .disjunction c e
  | or {a b : Condition} {e f : Expression} : Reads .disjunction a e → Reads .conjunction b f →
      Reads .disjunction (a ++ .connector .or :: b) (.joined .or e f)

theorem Reads.ne_nil {level : Level} {c : Condition} {e : Expression} (h : Reads level c e) : c ≠ [] := by
  induction h with
  | comparison | parens | not => exact List.cons_ne_nil _ _
  | factor _ ih | conjunction _ ih => exact ih
  | and | or => simp

/-! ### Reading from left to right -/

/-- What waits for the expression that is being read. -/
inductive Pending where
  | paren
  | not
  | left (connector : Connector) (e : Expression)

/-- A factor is negated and joined by `and` at once. -/
def finish : List Pending → Expression → List Pending × Expression
  | .not :: stack, e => finish stack (.not e)
  | .left .and l :: stack, e => (stack, .joined .and l e)
  | stack, e => (stack, e)

/-- A conjunction is joined by `or` when it ends. -/
def close : List Pending → Expression → List Pending × Expression
  | .left .or l :: stack, e => (stack, .joined .or l e)
  | stack, e => (stack, e)

/-- Reads the rest of a condition, given what is pending and the expression just read, if any. -/
def read : List Pending → Option Expression → Condition → Option Expression
  | stack, none, .operand sql :: rest =>
    let (stack, e) := finish stack (.comparison sql)
    read stack (some e) rest
  | stack, none, .not :: rest => read (.not :: stack) none rest
  | stack, none, .openParen :: rest => read (.paren :: stack) none rest
  | stack, some e, .connector .and :: rest => read (.left .and e :: stack) none rest
  | stack, some e, .connector .or :: rest =>
    let (stack, e) := close stack e
    read (.left .or e :: stack) none rest
  | stack, some e, .closeParen :: rest =>
    match close stack e with
    | (.paren :: stack, e) =>
      let (stack, e) := finish stack e
      read stack (some e) rest
    | _ => none
  | stack, some e, [] =>
    match close stack e with
    | ([], e) => some e
    | _ => none
  | _, _, _ => none

/-- Nothing is pending that a factor would be taken into. -/
def TakesFactor : List Pending → Prop
  | .not :: _ => False
  | .left .and _ :: _ => False
  | _ => True

/-- Nothing is pending but what parentheses or the end of the condition close. -/
def TakesConjunction : List Pending → Prop
  | [] => True
  | .paren :: _ => True
  | _ => False

theorem finish_of_takesFactor {stack : List Pending} (h : TakesFactor stack) (e : Expression) :
    finish stack e = (stack, e) := by
  match stack, h with
  | [], _ => rfl
  | .paren :: _, _ => rfl
  | .left .or _ :: _, _ => rfl

theorem close_of_takesConjunction {stack : List Pending} (h : TakesConjunction stack) (e : Expression) :
    close stack e = (stack, e) := by
  match stack, h with
  | [], _ => rfl
  | .paren :: _, _ => rfl

theorem TakesConjunction.takesFactor {stack : List Pending} (h : TakesConjunction stack) :
    TakesFactor stack := by
  match stack, h with
  | [], _ => trivial
  | .paren :: _, _ => trivial

/-- What reading a part of a condition does, at each level. -/
def ReadAs : Level → Condition → Expression → Prop
  | .factor, c, e => ∀ stack rest,
      read stack none (c ++ rest) = read (finish stack e).1 (some (finish stack e).2) rest
  | .conjunction, c, e => ∀ stack rest, TakesFactor stack →
      read stack none (c ++ rest) = read stack (some e) rest
  | .disjunction, c, e => ∀ stack, TakesConjunction stack →
      ∃ stack' last, close stack' last = (stack, e) ∧
        ∀ rest, read stack none (c ++ rest) = read stack' (some last) rest

theorem Reads.readAs {level : Level} {c : Condition} {e : Expression} (h : Reads level c e) :
    ReadAs level c e := by
  induction h with
  | comparison => exact fun stack rest => rfl
  | @parens c e _ ih =>
    intro stack rest
    obtain ⟨stack', last, hclose, hread⟩ := ih (.paren :: stack) trivial
    have htokens : c.enclosed ++ rest = .openParen :: (c ++ (.closeParen :: rest)) := by
      simp [enclosed]
    rw [htokens, read, hread, read, hclose]
  | not _ ih =>
    intro stack rest
    exact ih (.not :: stack) rest
  | factor _ ih =>
    intro stack rest hstack
    rw [ih stack rest, finish_of_takesFactor hstack]
  | @and a b e f _ _ iha ihb =>
    intro stack rest hstack
    have htokens : a ++ .connector .and :: b ++ rest = a ++ (.connector .and :: (b ++ rest)) := by simp
    rw [htokens, iha stack _ hstack, read, ihb]
    rfl
  | conjunction _ ih =>
    intro stack hstack
    refine ⟨stack, _, close_of_takesConjunction hstack _, ?_⟩
    intro rest
    exact ih stack rest hstack.takesFactor
  | @or a b e f _ _ iha ihb =>
    intro stack hstack
    obtain ⟨stack', last, hclose, hread⟩ := iha stack hstack
    refine ⟨.left .or e :: stack, f, rfl, ?_⟩
    intro rest
    have htokens : a ++ .connector .or :: b ++ rest = a ++ (.connector .or :: (b ++ rest)) := by simp
    rw [htokens, hread, read, hclose]
    exact ihb (.left .or e :: stack) rest trivial

theorem Reads.read_eq {c : Condition} {e : Expression} (h : Reads .disjunction c e) :
    read [] none c = some e := by
  obtain ⟨stack, last, hclose, hread⟩ := h.readAs [] trivial
  have hall := hread []
  rw [List.append_nil, read, hclose] at hall
  exact hall

/-- A condition is read in one way only. -/
theorem Reads.unique {c : Condition} {e f : Expression} (he : Reads .disjunction c e)
    (hf : Reads .disjunction c f) : e = f := by
  have hread := he.read_eq
  rw [hf.read_eq] at hread
  exact (Option.some.inj hread).symm

end Condition

end SqlBuilder
