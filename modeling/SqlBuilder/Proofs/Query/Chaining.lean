import SqlBuilder.Proofs.Query.Restriction
import SqlBuilder.Query.Call

/-!
Queries built by chains of calls. Main statement: calls on different clauses can change places, and where a
call takes the place of what was said before, only the last one counts.
-/

namespace SqlBuilder.Query

open Recorded

/-! ### Clauses -/

/-- What a call is about. -/
inductive Clause where
  | statement | condition | ordering | limit | offset | lock | context | options
deriving DecidableEq

namespace Clause

/-- A call on such a clause leaves nothing of the calls on it before. -/
def isReplaced : Clause → Bool
  | .ordering | .limit | .offset | .lock | .context => true
  | .statement | .condition | .options => false

/-- Two queries say the same in this clause. -/
def Agrees (q r : Query) : Clause → Prop
  | .statement => (q.method, q.columns, q.payload, q.returning, q.pluck) =
      (r.method, r.columns, r.payload, r.returning, r.pluck)
  | .condition => q.filter = r.filter
  | .ordering => q.ordering = r.ordering
  | .limit => q.limit = r.limit
  | .offset => q.offset = r.offset
  | .lock => q.lock = r.lock
  | .context => q.context = r.context
  | .options => q.options = r.options

variable {clause : Clause} {q r s : Query}

theorem agrees_refl (clause : Clause) (q : Query) : clause.Agrees q q := by
  cases clause <;> rfl

theorem Agrees.symm (h : clause.Agrees q r) : clause.Agrees r q := by
  cases clause <;> exact Eq.symm h

theorem Agrees.trans (h : clause.Agrees q r) (k : clause.Agrees r s) : clause.Agrees q s := by
  cases clause <;> exact Eq.trans h k

/-- A query is its table and its clauses. -/
theorem eq_of_agrees (htable : q.table = r.table) (h : ∀ clause : Clause, clause.Agrees q r) : q = r := by
  have hstatement : (q.method, q.columns, q.payload, q.returning, q.pluck) =
    (r.method, r.columns, r.payload, r.returning, r.pluck) := h .statement
  have hfilter : q.filter = r.filter := h .condition
  have hordering : q.ordering = r.ordering := h .ordering
  have hlimit : q.limit = r.limit := h .limit
  have hoffset : q.offset = r.offset := h .offset
  have hlock : q.lock = r.lock := h .lock
  have hcontext : q.context = r.context := h .context
  have hoptions : q.options = r.options := h .options
  cases q
  cases r
  simp_all

end Clause

/-! ### Steps -/

/-- A call that was accepted, with its arguments. -/
inductive Step where
  | select (columns : List Value)
  | first (columns : List Value)
  | pluck (column : Value)
  | insert (rows returning : List Value)
  | update (values : List (Value × Value)) (returning : List Value)
  | delete (returning : List Value)
  | truncate
  | restrict (restriction : Restriction)
  | orderBy (fields : List Value)
  | limitTo (limit : Value)
  | startAt (offset : Value)
  | lockFor (lock : Lock)
  | inContext (context : Value)
  | withOptions (options : List (Value × Value))

namespace Step

def clause : Step → Clause
  | .select _ | .first _ | .pluck _ | .insert .. | .update .. | .delete _ | .truncate => .statement
  | .restrict _ => .condition
  | .orderBy _ => .ordering
  | .limitTo _ => .limit
  | .startAt _ => .offset
  | .lockFor _ => .lock
  | .inContext _ => .context
  | .withOptions _ => .options

def apply (q : Query) : Step → Query
  | .select columns => q.select columns
  | .first columns => q.first columns
  | .pluck column => q.pluckColumn column
  | .insert rows returning => q.insert rows returning
  | .update values returning => q.update values returning
  | .delete returning => q.delete returning
  | .truncate => q.truncate
  | .restrict restriction => q.restrict restriction
  | .orderBy fields => q.orderBy fields
  | .limitTo limit => q.limitTo limit
  | .startAt offset => q.startAt offset
  | .lockFor lock => q.lockFor lock
  | .inContext context => q.inContext context
  | .withOptions options => q.withOptions options

/-- A restriction sees of a query and changes in it no more than the filter. -/
theorem exists_restrict_eq (restriction : Restriction) : ∃ change : Option Filter → Filter,
    ∀ q : Query, q.restrict restriction = { q with filter := some (change q.filter) } := by
  have hwhere : ∀ filter : Filter, ∃ change : Option Filter → Filter,
      ∀ q : Query, q.whereFilter filter = { q with filter := some (change q.filter) } := by
    intro filter
    refine ⟨fun old => old.elim filter fun old => if old.isEmpty then filter else .combine .and old filter, ?_⟩
    intro q
    unfold whereFilter
    split <;> simp [*]
  cases restriction with
  | filterBy lookups => exact hwhere (Filter.all [] lookups)
  | exclude lookups => exact hwhere (Filter.all [] lookups).negate
  | whereFilter filter => exact hwhere filter

theorem table_apply (q : Query) (step : Step) : (step.apply q).table = q.table := by
  cases step with
  | restrict restriction =>
    obtain ⟨change, hchange⟩ := exists_restrict_eq restriction
    rw [apply, hchange]
  | _ => rfl

/-- Other clauses are left as they are. -/
theorem agrees_apply_self {clause : Clause} {step : Step} (h : step.clause ≠ clause) (q : Query) :
    clause.Agrees (step.apply q) q := by
  cases step with
  | restrict restriction =>
    obtain ⟨change, hchange⟩ := exists_restrict_eq restriction
    rw [apply, hchange]
    cases clause <;> first | exact absurd rfl h | rfl
  | _ => cases clause <;> first | exact absurd rfl h | rfl

/-- Nothing but the clause itself decides what becomes of it. -/
theorem agrees_apply {q r : Query} (step : Step) (h : step.clause.Agrees q r) :
    step.clause.Agrees (step.apply q) (step.apply r) := by
  cases step with
  | restrict restriction =>
    obtain ⟨change, hchange⟩ := exists_restrict_eq restriction
    have hfilter : q.filter = r.filter := h
    rw [apply, apply, hchange, hchange]
    exact congrArg (fun filter => some (change filter)) hfilter
  | withOptions options =>
    have hoptions : q.options = r.options := h
    simp [clause, apply, Clause.Agrees, Query.withOptions, hoptions]
  | select | first | pluck | insert | update | delete | truncate =>
    simp only [clause, Clause.Agrees, Prod.mk.injEq] at h
    simp [clause, apply, Clause.Agrees, Query.select, Query.first, pluckColumn, Query.insert, Query.update,
      Query.delete, Query.truncate, h]
  | _ => rfl

/-- Where a clause is replaced, nothing that was said in it matters. -/
theorem agrees_apply_of_isReplaced {step : Step} (h : step.clause.isReplaced = true) (q r : Query) :
    step.clause.Agrees (step.apply q) (step.apply r) := by
  cases step <;> first | rfl | cases h

end Step

/-! ### Calls -/

/-- A call with a filter of its own, or one of the others by its name. -/
inductive ChainCall where
  | whereFilter (filter : Filter)
  | named (call : Call)

def clauseNamed? : String → Option Clause
  | "select" | "first" | "pluck" | "insert" | "update" | "delete" | "truncate" => some .statement
  | "filter" | "exclude" => some .condition
  | "order_by" => some .ordering
  | "limit" => some .limit
  | "offset" => some .offset
  | "for_update" | "for_share" => some .lock
  | "query_context" => some .context
  | "options" => some .options
  | _ => none

namespace ChainCall

def clause? : ChainCall → Option Clause
  | .whereFilter _ => some .condition
  | .named c => clauseNamed? c.name

def apply (q : Query) : ChainCall → Except Error Query
  | .whereFilter filter => .ok (q.whereFilter filter)
  | .named c => q.call c

/-- The call is this step, whatever query it is made on. -/
structure IsStep (call : ChainCall) (step : Step) : Prop where
  clause : call.clause? = some step.clause
  apply : ∀ q, call.apply q = .ok (step.apply q)

/-- A call that reads its arguments and then is a step. -/
theorem exists_isStep_of_read {call : ChainCall} {α : Type} (args : Except Error α) (make : α → Step)
    (hclause : ∀ a, call.clause? = some (make a).clause)
    (happly : ∀ q, call.apply q = args >>= fun a => .ok ((make a).apply q)) {q r : Query}
    (h : call.apply q = .ok r) : ∃ step, call.IsStep step := by
  rw [happly] at h
  obtain ⟨a, ha, -⟩ := except_bind_eq_ok.mp h
  exact ⟨make a, hclause a, fun q => by rw [happly, ha]; rfl⟩

/-- What a call does is decided by its arguments, and so is whether it is accepted. -/
theorem exists_isStep {call : ChainCall} {q r : Query} (h : call.apply q = .ok r) :
    ∃ step, call.IsStep step := by
  cases call with
  | whereFilter filter => exact ⟨.restrict (.whereFilter filter), rfl, fun _ => rfl⟩
  | named call =>
    obtain ⟨name, args, given⟩ := call
    have h' := h
    simp only [apply, Query.call] at h'
    split at h'
    · exact exists_isStep_of_read _ Step.select (fun _ => rfl) (fun _ => rfl) h
    · exact exists_isStep_of_read _ Step.first (fun _ => rfl) (fun _ => rfl) h
    · exact exists_isStep_of_read _ Step.orderBy (fun _ => rfl) (fun _ => rfl) h
    · exact exists_isStep_of_read _ (fun lookups => .restrict (.filterBy lookups)) (fun _ => rfl) (fun _ => rfl) h
    · exact exists_isStep_of_read _ (fun lookups => .restrict (.exclude lookups)) (fun _ => rfl) (fun _ => rfl) h
    · exact exists_isStep_of_read _ (fun options => .withOptions _) (fun _ => rfl) (fun _ => rfl) h
    · exact exists_isStep_of_read _ Step.pluck (fun _ => rfl) (fun _ => rfl) h
    · exact exists_isStep_of_read _ Step.limitTo (fun _ => rfl) (fun _ => rfl) h
    · exact exists_isStep_of_read _ Step.startAt (fun _ => rfl) (fun _ => rfl) h
    · exact exists_isStep_of_read _ Step.inContext (fun _ => rfl) (fun _ => rfl) h
    · exact exists_isStep_of_read _ (fun _ => .lockFor .update) (fun _ => rfl) (fun _ => rfl) h
    · exact exists_isStep_of_read _ (fun _ => .lockFor .share) (fun _ => rfl) (fun _ => rfl) h
    · exact exists_isStep_of_read _ (fun _ => .truncate) (fun _ => rfl) (fun _ => rfl) h
    · refine exists_isStep_of_read (do
        let given ← Call.two ⟨"insert", args, given⟩ (Parameter.required "rows") returningParameter
        return (← rowsOf given.1, ← given.2.toItems)) (fun read => .insert read.1 read.2) (fun _ => rfl)
        (fun q => ?_) h
      simp only [apply, Query.call, bind_pure_comp, bind_assoc, bind_map_left]
      rfl
    · refine exists_isStep_of_read (do
        let given ← Call.two ⟨"update", args, given⟩ (Parameter.required "values") returningParameter
        return (← given.1.toMapping, ← given.2.toItems)) (fun read => .update read.1 read.2) (fun _ => rfl)
        (fun q => ?_) h
      simp only [apply, Query.call, bind_pure_comp, bind_assoc, bind_map_left]
      rfl
    · refine exists_isStep_of_read (do
        let returning ← Call.one ⟨"delete", args, given⟩ returningParameter
        returning.toItems) .delete (fun _ => rfl) (fun q => ?_) h
      simp only [apply, Query.call, bind_pure_comp, bind_assoc]
      rfl
    · cases h'

variable {clause : Clause} {call : ChainCall} {q r q' r' : Query}

theorem table_eq_of_apply (h : call.apply q = .ok r) : r.table = q.table := by
  obtain ⟨step, hstep⟩ := exists_isStep h
  obtain rfl := Except.ok.inj ((hstep.apply q).symm.trans h)
  exact Step.table_apply q step

theorem agrees_of_apply (hclause : call.clause? ≠ some clause) (h : call.apply q = .ok r) :
    clause.Agrees r q := by
  obtain ⟨step, hstep⟩ := exists_isStep h
  obtain rfl := Except.ok.inj ((hstep.apply q).symm.trans h)
  exact Step.agrees_apply_self (fun hsame => hclause (by rw [hstep.clause, hsame])) q

theorem exists_apply (hclause : call.clause? = some clause) (h : call.apply q = .ok r)
    (hagrees : clause.Agrees q q') : ∃ r', call.apply q' = .ok r' ∧ clause.Agrees r r' := by
  obtain ⟨step, hstep⟩ := exists_isStep h
  obtain rfl := Except.ok.inj ((hstep.apply q).symm.trans h)
  obtain rfl : step.clause = clause := Option.some.inj (hstep.clause.symm.trans hclause)
  exact ⟨step.apply q', hstep.apply q', Step.agrees_apply step hagrees⟩

theorem exists_apply_of_isReplaced (hclause : call.clause? = some clause) (hreplaced : clause.isReplaced = true)
    (h : call.apply q = .ok r) (q' : Query) : ∃ r', call.apply q' = .ok r' ∧ clause.Agrees r r' := by
  obtain ⟨step, hstep⟩ := exists_isStep h
  obtain rfl := Except.ok.inj ((hstep.apply q).symm.trans h)
  obtain rfl : step.clause = clause := Option.some.inj (hstep.clause.symm.trans hclause)
  exact ⟨step.apply q', hstep.apply q', Step.agrees_apply_of_isReplaced hreplaced q q'⟩

end ChainCall

/-! ### Chains -/

/-- The query that a chain of calls makes of this one, if none of them is refused. -/
def chain (q : Query) (calls : List ChainCall) : Except Error Query :=
  calls.foldlM ChainCall.apply q

/-- Compiled after a chain of calls; a call that is refused is the failure. -/
def compileChain (dialect : Dialect) (q : Query) (calls : List ChainCall) : Recorded Statement := do
  (← Recorded.ofExcept (q.chain calls)).toStatement dialect

/-- The calls of a chain that say what becomes of a clause. -/
def Clause.effective (clause : Clause) (calls : List ChainCall) : List ChainCall :=
  let own := calls.filter fun call => call.clause? = some clause
  if clause.isReplaced then own.getLast?.toList else own

theorem chain_cons {q r : Query} {call : ChainCall} {calls : List ChainCall} :
    q.chain (call :: calls) = .ok r ↔ ∃ next, call.apply q = .ok next ∧ next.chain calls = .ok r := by
  rw [chain, List.foldlM_cons, except_bind_eq_ok]
  rfl

theorem chain_append {q r : Query} {calls later : List ChainCall} :
    q.chain (calls ++ later) = .ok r ↔ ∃ next, q.chain calls = .ok next ∧ next.chain later = .ok r := by
  rw [chain, List.foldlM_append, except_bind_eq_ok]
  rfl

variable {clause : Clause} {calls others : List ChainCall} {q q' r : Query}

theorem table_eq_of_chain (h : q.chain calls = .ok r) : r.table = q.table := by
  induction calls generalizing q with
  | nil => exact congrArg table (Except.ok.inj h).symm
  | cons call calls ih =>
    obtain ⟨next, hnext, h⟩ := chain_cons.mp h
    rw [ih h, ChainCall.table_eq_of_apply hnext]

/-- Calls on other clauses make no difference to a clause. -/
theorem exists_chain_filter (hagrees : clause.Agrees q q') (h : q.chain calls = .ok r) :
    ∃ r', q'.chain (calls.filter fun call => call.clause? = some clause) = .ok r' ∧ clause.Agrees r r' := by
  induction calls generalizing q q' with
  | nil =>
    obtain rfl := Except.ok.inj h
    exact ⟨q', rfl, hagrees⟩
  | cons call calls ih =>
    obtain ⟨next, hnext, h⟩ := chain_cons.mp h
    by_cases hclause : call.clause? = some clause
    · obtain ⟨next', hnext', hagrees'⟩ := ChainCall.exists_apply hclause hnext hagrees
      obtain ⟨r', hr', hresult⟩ := ih hagrees' h
      rw [List.filter_cons_of_pos (by simpa using hclause)]
      exact ⟨r', chain_cons.mpr ⟨next', hnext', hr'⟩, hresult⟩
    · have hframe := ChainCall.agrees_of_apply hclause hnext
      rw [List.filter_cons_of_neg (by simpa using hclause)]
      exact ih (hframe.trans hagrees) h

/-- Of the calls on a clause that is replaced, those before the last make no difference. -/
theorem exists_chain_last (hreplaced : clause.isReplaced = true)
    (hcalls : ∀ call ∈ calls, call.clause? = some clause) (h : q.chain calls = .ok r) :
    ∃ r', q.chain calls.getLast?.toList = .ok r' ∧ clause.Agrees r r' := by
  rcases List.eq_nil_or_concat calls with rfl | ⟨earlier, last, rfl⟩
  · exact ⟨r, h, clause.agrees_refl r⟩
  · rw [List.concat_eq_append] at h hcalls ⊢
    obtain ⟨next, -, hlast⟩ := chain_append.mp h
    obtain ⟨r₁, hr₁, hnil⟩ := chain_cons.mp hlast
    obtain rfl := Except.ok.inj hnil
    have hclause := hcalls last (by simp)
    obtain ⟨r', hr', hagrees⟩ := ChainCall.exists_apply_of_isReplaced hclause hreplaced hr₁ q
    rw [List.getLast?_concat]
    exact ⟨r', chain_cons.mpr ⟨r', hr', rfl⟩, hagrees⟩

theorem exists_chain_effective (clause : Clause) (h : q.chain calls = .ok r) :
    ∃ r', q.chain (clause.effective calls) = .ok r' ∧ clause.Agrees r r' := by
  obtain ⟨own, hown, hagrees⟩ := exists_chain_filter (clause.agrees_refl q) h
  rw [Clause.effective]
  split
  · next hreplaced =>
    obtain ⟨r', hr', hlast⟩ := exists_chain_last hreplaced (by simp) hown
    exact ⟨r', hr', hagrees.trans hlast⟩
  · exact ⟨own, hown, hagrees⟩

theorem exists_isStep_of_mem {call : ChainCall} (h : q.chain calls = .ok r) (hcall : call ∈ calls) :
    ∃ step, call.IsStep step := by
  induction calls generalizing q with
  | nil => cases hcall
  | cons first calls ih =>
    obtain ⟨next, hnext, h⟩ := chain_cons.mp h
    rcases List.mem_cons.mp hcall with rfl | hcall
    · exact ChainCall.exists_isStep hnext
    · exact ih h hcall

theorem exists_chain (h : ∀ call ∈ calls, ∃ step, ChainCall.IsStep call step) : ∃ r, q.chain calls = .ok r := by
  induction calls generalizing q with
  | nil => exact ⟨q, rfl⟩
  | cons call calls ih =>
    obtain ⟨⟨step, hstep⟩, h⟩ := List.forall_mem_cons.mp h
    obtain ⟨r, hr⟩ := ih (q := step.apply q) h
    exact ⟨r, chain_cons.mpr ⟨step.apply q, hstep.apply q, hr⟩⟩

/-- Whatever chain of calls is accepted: the same calls in another order, which may leave out some of them, are
accepted, too, and compiled to the same statement with the same log, or to the same failure, if each clause has
the same calls on it in the same order, or, where a call takes the place of those before, the same last one. -/
theorem chain_reordered (accepted : q.chain calls = .ok r) (hsub : others ⊆ calls)
    (heffective : ∀ clause : Clause, clause.effective others = clause.effective calls) :
    q.chain others = .ok r ∧
      ∀ dialect, compileChain dialect q others = compileChain dialect q calls := by
  obtain ⟨s, hs⟩ : ∃ s, q.chain others = .ok s :=
    exists_chain fun call hcall => exists_isStep_of_mem accepted (hsub hcall)
  have hagrees : ∀ clause : Clause, clause.Agrees s r := by
    intro clause
    obtain ⟨r', hr', hr⟩ := exists_chain_effective clause accepted
    obtain ⟨s', hs', hs⟩ := exists_chain_effective clause hs
    obtain rfl : s' = r' := by
      rw [heffective clause, hr'] at hs'
      exact (Except.ok.inj hs').symm
    exact hs.trans hr.symm
  obtain rfl : s = r :=
    Clause.eq_of_agrees ((table_eq_of_chain hs).trans (table_eq_of_chain accepted).symm) hagrees
  refine ⟨hs, fun dialect => ?_⟩
  rw [compileChain, compileChain, hs, accepted]

/-- Clauses in turns, with two limits and two locks. -/
def interleavedCalls : List ChainCall := [
  .named { name := "limit", args := [.int 5] },
  .named { name := "filter", named := [("a__gt", .int 1)] },
  .named { name := "select", args := [.text "a"] },
  .named { name := "for_share" },
  .whereFilter (.node .or true [.lookup "b" .null]),
  .named { name := "limit", args := [.int 3] },
  .named { name := "order_by", args := [.text "-a"] },
  .named { name := "for_update" },
  .named { name := "select", args := [.text "b"] }]

/-- The same clause by clause, without the first limit and the first lock. -/
def sortedCalls : List ChainCall := [
  .named { name := "select", args := [.text "a"] },
  .named { name := "select", args := [.text "b"] },
  .named { name := "filter", named := [("a__gt", .int 1)] },
  .whereFilter (.node .or true [.lookup "b" .null]),
  .named { name := "order_by", args := [.text "-a"] },
  .named { name := "limit", args := [.int 3] },
  .named { name := "for_update" }]

theorem interleavedCalls_reordered :
    ∃ r, (on (.text "t")).chain interleavedCalls = .ok r ∧ sortedCalls ⊆ interleavedCalls ∧
      (∀ clause : Clause, clause.effective sortedCalls = clause.effective interleavedCalls) ∧
      (on (.text "t")).chain sortedCalls = .ok r ∧
      ∀ dialect, compileChain dialect (on (.text "t")) sortedCalls =
        compileChain dialect (on (.text "t")) interleavedCalls := by
  have hsub : sortedCalls ⊆ interleavedCalls := by
    simp [sortedCalls, interleavedCalls]
  have heffective : ∀ clause : Clause, clause.effective sortedCalls = clause.effective interleavedCalls := by
    intro clause
    cases clause <;> rfl
  have hreordered := @chain_reordered interleavedCalls sortedCalls (on (.text "t")) _ rfl hsub heffective
  exact ⟨_, rfl, hsub, heffective, hreordered⟩

end SqlBuilder.Query
