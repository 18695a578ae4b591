import Mathlib.Data.List.Nodup
import SqlBuilder.Proofs.Transaction.Rehearsal

/-!
The statements that crossings send, as brackets. Main statement: where savepoints exist and no statement
fails, transactions follow one another, the savepoints in them are closed innermost first and by name, no
name comes twice, and a boundary is refused to be closed exactly if none is open.
-/

namespace SqlBuilder

/-- Savepoints are left to the transaction, which names them itself. -/
def Crossing.isUnnamed : Crossing → Bool
  | .begin => true
  | .commit => true
  | .rollback => true
  | _ => false

namespace Transaction

/-! ### Brackets -/

def EndsSavepoint (name ending : String) : Prop :=
  ending = "release savepoint " ++ name ∨ ending = "rollback to savepoint " ++ name

def EndsTransaction (ending : String) : Prop :=
  ending = "commit" ∨ ending = "rollback"

/-- Savepoints one after another, each closed by its own name when those inside it are. -/
inductive Nested : List String → Prop where
  | nil : Nested []
  | savepoint {before inside : List String} {name ending : String} : Nested before → Nested inside →
      EndsSavepoint name ending → Nested (before ++ ("savepoint " ++ name) :: inside ++ [ending])

/-- Transactions one after another, each with savepoints inside. -/
inductive Blocks : List String → Prop where
  | nil : Blocks []
  | block {before inside : List String} {ending : String} : Blocks before → Nested inside →
      EndsTransaction ending → Blocks (before ++ "begin" :: inside ++ [ending])

/-- Transactions one after another, where the last one may be open, with these savepoints open inside
it, the innermost first. -/
inductive Bracketed : List (Option String) → List String → Prop where
  | closed {sql : List String} : Blocks sql → Bracketed [] sql
  | block {before inside : List String} : Blocks before → Nested inside →
      Bracketed [none] (before ++ "begin" :: inside)
  | savepoint {boundary : Option String} {boundaries : List (Option String)} {before inside : List String}
      {name : String} : Bracketed (boundary :: boundaries) before → Nested inside →
      Bracketed (some name :: boundary :: boundaries) (before ++ ("savepoint " ++ name) :: inside)

variable {sql before inside : List String} {boundary : Option String} {boundaries : List (Option String)}
  {name ending : String}

theorem Nested.append {more : List String} (h : Nested inside) (hmore : Nested more) :
    Nested (inside ++ more) := by
  induction hmore with
  | nil => rwa [List.append_nil]
  | @savepoint before' inside' name' ending' _ hinside hending ih _ =>
    have hall := Nested.savepoint ih hinside hending
    simpa [List.append_assoc] using hall

theorem nested_singleton (h : Nested inside) (hending : EndsSavepoint name ending) :
    Nested (("savepoint " ++ name) :: inside ++ [ending]) :=
  Nested.savepoint .nil h hending

namespace Bracketed

/-- What is closed again leaves open what was open. -/
theorem append (h : Bracketed (boundary :: boundaries) sql) (hinside : Nested inside) :
    Bracketed (boundary :: boundaries) (sql ++ inside) := by
  cases h with
  | @block before inside' hbefore hnested =>
    have hall := Bracketed.block hbefore (hnested.append hinside)
    simpa [List.append_assoc] using hall
  | @savepoint boundary boundaries before inside' name hbefore hnested =>
    have hall : Bracketed (some name :: boundary :: boundaries)
        (before ++ ("savepoint " ++ name) :: (inside' ++ inside)) :=
      .savepoint hbefore (hnested.append hinside)
    simpa [List.append_assoc] using hall

theorem beginBlock (h : Bracketed [] sql) : Bracketed [none] (sql ++ ["begin"]) := by
  cases h with
  | closed hblocks => exact .block hblocks .nil

theorem beginSavepoint (h : Bracketed (boundary :: boundaries) sql) (name : String) :
    Bracketed (some name :: boundary :: boundaries) (sql ++ ["savepoint " ++ name]) :=
  .savepoint h .nil

theorem endBlock (h : Bracketed (none :: boundaries) sql) (hending : EndsTransaction ending) :
    Bracketed boundaries (sql ++ [ending]) := by
  cases h with
  | block hbefore hnested => exact .closed (.block hbefore hnested hending)

theorem endSavepoint (h : Bracketed (some name :: boundaries) sql) (hending : EndsSavepoint name ending) :
    Bracketed boundaries (sql ++ [ending]) := by
  cases h with
  | @savepoint boundary boundaries before inside _ hbefore hnested =>
    have hall := hbefore.append (nested_singleton hnested hending)
    simpa [List.append_assoc] using hall

end Bracketed

/-! ### Counting brackets -/

/-- The first word opens a boundary. -/
def opens (sql : String) : Bool :=
  starts "begin" sql || starts "savepoint" sql

/-- The first word closes a boundary. -/
def closes (sql : String) : Bool :=
  starts "commit" sql || starts "release" sql || starts "rollback" sql

/-- Brackets that open, and those that close. -/
def IsOpening (sql : String) : Prop :=
  opens sql = true ∧ closes sql = false

def IsEnding (sql : String) : Prop :=
  opens sql = false ∧ closes sql = true

theorem isOpening_begin : IsOpening "begin" :=
  ⟨rfl, rfl⟩

theorem isOpening_savepoint (name : String) : IsOpening ("savepoint " ++ name) := by
  rw [IsOpening, opens, closes, starts, starts, starts, starts, starts, String.toList_append]
  exact ⟨rfl, rfl⟩

theorem EndsSavepoint.isEnding (h : EndsSavepoint name ending) : IsEnding ending := by
  rcases h with rfl | rfl
  · rw [IsEnding, opens, closes, starts, starts, starts, starts, starts, String.toList_append]
    exact ⟨rfl, rfl⟩
  · rw [IsEnding, opens, closes, starts, starts, starts, starts, starts, String.toList_append]
    exact ⟨rfl, rfl⟩

theorem EndsTransaction.isEnding (h : EndsTransaction ending) : IsEnding ending := by
  rcases h with rfl | rfl
  · exact ⟨rfl, rfl⟩
  · exact ⟨rfl, rfl⟩

theorem countP_opening {opening : String} (hopening : IsOpening opening)
    (hinside : inside.countP opens = inside.countP closes) :
    (opening :: inside).countP opens = (opening :: inside).countP closes + 1 := by
  obtain ⟨hopens, hcloses⟩ := hopening
  simp only [List.countP_cons, hopens, hcloses, hinside, if_true, Bool.false_eq_true, if_false,
    Nat.add_zero]

theorem countP_ending {opened : List String} (hending : IsEnding ending)
    (h : opened.countP opens = opened.countP closes + 1) :
    (opened ++ [ending]).countP opens = (opened ++ [ending]).countP closes := by
  obtain ⟨hopens, hcloses⟩ := hending
  simp only [List.countP_append, List.countP_singleton, hopens, hcloses, h, if_true,
    Bool.false_eq_true, if_false, Nat.add_zero]

theorem Nested.balanced (h : Nested sql) : sql.countP opens = sql.countP closes := by
  induction h with
  | nil => rfl
  | @savepoint before inside name _ _ _ hending ihbefore ihinside =>
    have hbracket := countP_ending hending.isEnding (countP_opening (isOpening_savepoint name) ihinside)
    rw [List.append_assoc, List.countP_append, ihbefore, hbracket, ← List.countP_append]

theorem Blocks.balanced (h : Blocks sql) : sql.countP opens = sql.countP closes := by
  induction h with
  | nil => rfl
  | block _ hinside hending ih =>
    have hbracket := countP_ending hending.isEnding (countP_opening isOpening_begin hinside.balanced)
    rw [List.append_assoc, List.countP_append, ih, hbracket, ← List.countP_append]

/-- As many brackets are open as there are more that open than that close. -/
theorem Bracketed.balanced (h : Bracketed boundaries sql) :
    sql.countP opens = sql.countP closes + boundaries.length := by
  induction h with
  | closed hblocks => exact hblocks.balanced
  | block hbefore hinside =>
    have hbracket := countP_opening isOpening_begin hinside.balanced
    rw [List.countP_append, List.countP_append, hbefore.balanced, hbracket]
    rfl
  | @savepoint boundary boundaries before inside name _ hinside ih =>
    have hbracket := countP_opening (isOpening_savepoint name) hinside.balanced
    rw [List.countP_append, List.countP_append, ih, hbracket, List.length_cons (a := some name)]
    omega

/-! ### What crossings keep -/

variable {scope : Scope Rehearsal} {supportsReturning : Bool} {crossing : Crossing}

/-- The statements leave open what the transaction takes to be open, and the savepoints in them are
numbered in order. -/
structure Kept (scope : Scope Rehearsal) : Prop where
  serves : scope.host.failures = []
  bracketed : Bracketed scope.transaction.boundaries scope.host.sent
  numbered : ∃ issued, scope.transaction.nextSavepoint = issued + 1 ∧
    scope.host.sent.filter (starts "savepoint") =
      (List.range' 1 issued).map fun n => "savepoint " ++ savepointName n

theorem kept_fresh : Kept { host := {} } where
  serves := rfl
  bracketed := .closed .nil
  numbered := ⟨0, rfl, rfl⟩

theorem starts_of_opens_eq_false {sql : String} (h : opens sql = false) : starts "savepoint" sql = false :=
  (Bool.or_eq_false_iff.mp h).2

theorem Kept.begin (h : Kept scope) :
    Kept (cross (.ansi supportsReturning) Rehearsal.host .begin scope).2 := by
  obtain ⟨serves, bracketed, issued, hnext, hissued⟩ := h
  rw [cross_rehearsed serves (plan_begin _ _)]
  cases hopen : scope.transaction.boundaries with
  | nil =>
    rw [hopen] at bracketed
    rw [planBegin_nil hopen]
    have hsent : (scope.host.sent ++ ["begin"]).filter (starts "savepoint") =
        scope.host.sent.filter (starts "savepoint") := by
      rw [List.filter_append]
      exact List.append_nil _
    exact ⟨serves, bracketed.beginBlock, issued, hnext, hsent.trans hissued⟩
  | cons boundary boundaries =>
    rw [hopen] at bracketed
    rw [planBegin_cons hopen, hnext]
    have hstarts : starts "savepoint" ("savepoint " ++ savepointName (issued + 1)) = true := by
      rw [starts, String.toList_append]
      rfl
    have hsent : (scope.host.sent ++ ["savepoint " ++ savepointName (issued + 1)]).filter
          (starts "savepoint") =
        (List.range' 1 (issued + 1)).map fun n => "savepoint " ++ savepointName n := by
      rw [List.filter_append, hissued, List.range'_concat, List.map_append]
      simp [hstarts, Nat.add_comm]
    exact ⟨serves, bracketed.beginSavepoint _, issued + 1, rfl, hsent⟩

/-- Commit and rollback differ in the words of their statements alone. -/
theorem Kept.close {outermost savepoint : String} {missing : Error} (h : Kept scope)
    (houtermost : EndsTransaction outermost) (hsavepoint : ∀ name, EndsSavepoint name (savepoint ++ name))
    (hplan : scope.transaction.plan (.ansi supportsReturning) crossing =
      scope.transaction.planClose (.ansi supportsReturning) outermost savepoint missing) :
    Kept (cross (.ansi supportsReturning) Rehearsal.host crossing scope).2 := by
  obtain ⟨serves, bracketed, issued, hnext, hissued⟩ := h
  have hsent : ∀ {sql}, opens sql = false → (scope.host.sent ++ [sql]).filter (starts "savepoint") =
      scope.host.sent.filter (starts "savepoint") := by
    intro sql hopens
    rw [List.filter_append]
    simp [starts_of_opens_eq_false hopens]
  cases hopen : scope.transaction.boundaries with
  | nil =>
    rw [planClose_nil hopen] at hplan
    rw [cross_refused hplan]
    exact ⟨serves, bracketed, issued, hnext, hissued⟩
  | cons boundary boundaries =>
    rw [planClose_cons hopen] at hplan
    rw [hopen] at bracketed
    rw [cross_rehearsed serves hplan]
    cases boundary with
    | none =>
      exact ⟨serves, bracketed.endBlock houtermost, issued, hnext,
        (hsent houtermost.isEnding.1).trans hissued⟩
    | some name =>
      exact ⟨serves, bracketed.endSavepoint (hsavepoint name), issued, hnext,
        (hsent (hsavepoint name).isEnding.1).trans hissued⟩

theorem Kept.cross (h : Kept scope) (hunnamed : crossing.isUnnamed = true) :
    Kept (cross (.ansi supportsReturning) Rehearsal.host crossing scope).2 := by
  cases crossing with
  | begin => exact h.begin
  | commit => exact h.close (.inl rfl) (fun _ => .inl rfl) rfl
  | rollback => exact h.close (.inr rfl) (fun _ => .inr rfl) rfl
  | savepoint name | release name | rollbackTo name => cases hunnamed

theorem savepointName_injective : Function.Injective savepointName := by
  intro m n h
  have hdigits : Nat.toDigits 10 m = Nat.toDigits 10 n := by
    have htext : toString m = toString n := (String.append_right_inj "sp_").mp h
    rw [Nat.toString_eq_ofList_toDigits, Nat.toString_eq_ofList_toDigits] at htext
    exact String.ofList_injective htext
  calc
    m = Nat.ofDigitChars 10 (Nat.toDigits 10 m) 0 := Nat.ofDigitChars_ten_toDigits.symm
    _ = Nat.ofDigitChars 10 (Nat.toDigits 10 n) 0 := by rw [hdigits]
    _ = n := Nat.ofDigitChars_ten_toDigits

/-- Numbers are never used again. -/
theorem Kept.nodup (h : Kept scope) : (scope.host.sent.filter (starts "savepoint")).Nodup := by
  obtain ⟨issued, -, hissued⟩ := h.numbered
  rw [hissued]
  refine List.Nodup.map ?_ List.nodup_range'
  intro m n hmn
  exact savepointName_injective ((String.append_right_inj "savepoint ").mp hmn)

/-! ### Opening and closing -/

/-- The crossing fails as one of transactions, nothing is sent and nothing changes. -/
def Refused (dialect : Dialect) (crossing : Crossing) (scope : Scope Rehearsal) : Prop :=
  ∃ e, e.kind = .transaction ∧ cross dialect Rehearsal.host crossing scope = (.error e, scope)

/-- The crossing succeeds, sends one statement and leaves the transaction so. -/
def Sends (dialect : Dialect) (crossing : Crossing) (scope : Scope Rehearsal) (after : Transaction) : Prop :=
  ∃ sql, cross dialect Rehearsal.host crossing scope =
    (.ok (), ⟨{ scope.host with sent := scope.host.sent ++ [sql] }, after⟩)

/-- One more boundary is open. -/
def Opened (dialect : Dialect) (scope : Scope Rehearsal) : Prop :=
  ∃ after, Sends dialect .begin scope after ∧ after.depth = scope.transaction.depth + 1

/-- One boundary less is open. -/
def Closed (dialect : Dialect) (crossing : Crossing) (scope : Scope Rehearsal) : Prop :=
  ∃ after, Sends dialect crossing scope after ∧ after.depth + 1 = scope.transaction.depth

theorem opened (hserves : scope.host.failures = []) : Opened (.ansi supportsReturning) scope := by
  have hplan := plan_begin (.ansi supportsReturning) scope.transaction
  cases hopen : scope.transaction.boundaries with
  | nil =>
    rw [planBegin_nil hopen] at hplan
    exact ⟨_, ⟨_, cross_rehearsed hserves hplan⟩, by simp [depth, hopen]⟩
  | cons boundary boundaries =>
    rw [planBegin_cons hopen] at hplan
    exact ⟨_, ⟨_, cross_rehearsed hserves hplan⟩, by simp [depth, hopen]⟩

theorem Refused.not_closed {dialect : Dialect} (h : Refused dialect crossing scope) :
    ¬ Closed dialect crossing scope := by
  obtain ⟨e, -, hrefused⟩ := h
  rintro ⟨after, ⟨sql, hclosed⟩, -⟩
  rw [hrefused] at hclosed
  cases hclosed

theorem refused_of_depth_eq_zero (dialect : Dialect) (hcloses : crossing.closes = true)
    (h : scope.transaction.depth = 0) : Refused dialect crossing scope := by
  obtain ⟨outermost, savepoint, missing, hkind, hclose⟩ := plan_of_closes hcloses
  have hnone : scope.transaction.boundaries = [] := List.length_eq_zero_iff.mp h
  exact ⟨missing, hkind, cross_refused ((hclose ..).trans (planClose_nil hnone ..))⟩

theorem closed_of_depth_ne_zero (hserves : scope.host.failures = []) (hcloses : crossing.closes = true)
    (h : scope.transaction.depth ≠ 0) : Closed (.ansi supportsReturning) crossing scope := by
  obtain ⟨outermost, savepoint, missing, -, hclose⟩ := plan_of_closes hcloses
  have hplan := hclose (.ansi supportsReturning) scope.transaction
  cases hopen : scope.transaction.boundaries with
  | nil => exact absurd (List.length_eq_zero_iff.mpr hopen) h
  | cons boundary boundaries =>
    rw [planClose_cons hopen] at hplan
    have hdepth : boundaries.length + 1 = scope.transaction.depth := by simp [depth, hopen]
    cases boundary with
    | none => exact ⟨_, ⟨_, cross_rehearsed hserves hplan⟩, hdepth⟩
    | some name => exact ⟨_, ⟨_, cross_rehearsed hserves hplan⟩, hdepth⟩

structure WellBracketed (dialect : Dialect) (scope : Scope Rehearsal) : Prop where
  /-- What the statements leave open is what the transaction takes to be open. -/
  bracketed : Bracketed scope.transaction.boundaries scope.host.sent
  /-- Savepoints are named by a number, counted from one. -/
  numbered : ∃ issued, scope.host.sent.filter (starts "savepoint") =
    (List.range' 1 issued).map fun n => "savepoint " ++ savepointName n
  /-- No savepoint has the name of an earlier one. -/
  fresh : (scope.host.sent.filter (starts "savepoint")).Nodup
  depth : scope.host.sent.countP opens = scope.host.sent.countP closes + scope.transaction.depth
  opened : Opened dialect scope
  refused : ∀ crossing, crossing.closes = true →
    (Refused dialect crossing scope ↔ scope.transaction.depth = 0)
  closed : ∀ crossing, crossing.closes = true →
    (Closed dialect crossing scope ↔ scope.transaction.depth ≠ 0)

/-- However boundaries are begun, committed and rolled back, and also when that fails because none is open:
the statements sent are brackets, closed by name and innermost first, the depth is the number of those
still open, and a commit or a rollback is refused exactly if there are none. -/
theorem crossEach_wellBracketed (supportsReturning : Bool) {crossings : List Crossing}
    (hunnamed : ∀ crossing ∈ crossings, crossing.isUnnamed = true) :
    WellBracketed (.ansi supportsReturning)
      (crossEach (.ansi supportsReturning) Rehearsal.host crossings { host := {} }).2 := by
  have hkept : Kept (crossEach (.ansi supportsReturning) Rehearsal.host crossings { host := {} }).2 :=
    crossEach_keeps (fun crossing hmem _ h => Kept.cross h (hunnamed crossing hmem)) kept_fresh
  generalize (crossEach (.ansi supportsReturning) Rehearsal.host crossings { host := {} }).2 = scope
    at hkept ⊢
  obtain ⟨issued, -, hissued⟩ := hkept.numbered
  refine ⟨hkept.bracketed, ⟨issued, hissued⟩, hkept.nodup, hkept.bracketed.balanced,
    opened hkept.serves, ?_, ?_⟩
  · intro crossing hcloses
    refine ⟨fun hrefused => ?_, refused_of_depth_eq_zero _ hcloses⟩
    by_contra hdepth
    exact hrefused.not_closed (closed_of_depth_ne_zero hkept.serves hcloses hdepth)
  · intro crossing hcloses
    refine ⟨fun hclosed hdepth => ?_, closed_of_depth_ne_zero hkept.serves hcloses⟩
    exact (refused_of_depth_eq_zero _ hcloses hdepth).not_closed hclosed

/-- Refused at first and once in between, with two transactions and one of three savepoints left open. -/
theorem interleavedCrossings_wellBracketed :
    let crossings : List Crossing := [.rollback, .begin, .begin, .begin, .rollback, .commit, .commit,
      .commit, .begin, .begin]
    (∀ crossing ∈ crossings, crossing.isUnnamed = true) ∧
      WellBracketed (.ansi false) (crossEach (.ansi false) Rehearsal.host crossings { host := {} }).2 :=
  ⟨by decide, crossEach_wellBracketed false (by decide)⟩

end Transaction

end SqlBuilder
