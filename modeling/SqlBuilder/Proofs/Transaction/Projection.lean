import SqlBuilder.Proofs.Transaction.Rehearsal

/-!
The same crossings with savepoints and without. Main statement: the dialect without them ends every
crossing alike and at the same depth, sends the other statements alone, and warns once for each statement
that it leaves out.
-/

namespace SqlBuilder.Transaction

def aboutSavepoint (sql : String) : Bool :=
  starts "savepoint " sql || starts "release savepoint " sql || starts "rollback to savepoint " sql

/-- `begin` takes turns with `commit` and `rollback`, and the flag tells whether the last turn was its
own. -/
inductive TakesTurns : Bool → List String → Prop where
  | nil : TakesTurns false []
  | begin {sql : List String} : TakesTurns false sql → TakesTurns true (sql ++ ["begin"])
  | commit {sql : List String} : TakesTurns true sql → TakesTurns false (sql ++ ["commit"])
  | rollback {sql : List String} : TakesTurns true sql → TakesTurns false (sql ++ ["rollback"])

variable {supportsReturning folds : Bool} {hook : Option Hook} {crossing : Crossing}

theorem aboutSavepoint_savepoint (name : String) : aboutSavepoint ("savepoint " ++ name) = true := by
  simp [aboutSavepoint, starts_append]

theorem aboutSavepoint_release (name : String) : aboutSavepoint ("release savepoint " ++ name) = true := by
  simp [aboutSavepoint, starts_append]

theorem aboutSavepoint_rollbackTo (name : String) :
    aboutSavepoint ("rollback to savepoint " ++ name) = true := by
  simp [aboutSavepoint, starts_append]

/-! ### Two runs side by side -/

/-- What the dialect without savepoints does in the place of sending a statement. -/
def unsaved (folds : Bool) (hook : Option Hook) (sql : String) : Effect :=
  if aboutSavepoint sql then .savepoint (.snowflake folds hook) sql else .send sql

theorem unsaved_of_about {sql : String} (h : aboutSavepoint sql = true) :
    unsaved folds hook sql = .savepoint (.snowflake folds hook) sql := by
  rw [unsaved, if_pos h]

theorem unsaved_of_not_about {sql : String} (h : aboutSavepoint sql = false) :
    unsaved folds hook sql = .send sql := by
  simp [unsaved, h]

/-- Both dialects refuse alike, or both have the same change of the transaction in mind. -/
def Corresponds (folds : Bool) (hook : Option Hook) (plain other : Except Error Plan) : Prop :=
  (∃ e, plain = .error e ∧ other = .error e) ∨
    ∃ sql before after, plain = .ok ⟨.send sql, before, after⟩ ∧
      other = .ok ⟨unsaved folds hook sql, before, after⟩

theorem corresponds_planClose {outermost savepoint : String} (houtermost : aboutSavepoint outermost = false)
    (hsavepoint : ∀ name, aboutSavepoint (savepoint ++ name) = true) (missing : Error)
    (transaction : Transaction) :
    Corresponds folds hook (transaction.planClose (.ansi supportsReturning) outermost savepoint missing)
      (transaction.planClose (.snowflake folds hook) outermost savepoint missing) := by
  cases hopen : transaction.boundaries with
  | nil => exact .inl ⟨missing, planClose_nil hopen .., planClose_nil hopen ..⟩
  | cons boundary boundaries =>
    rw [planClose_cons hopen, planClose_cons hopen]
    right
    cases boundary with
    | none => exact ⟨outermost, _, _, rfl, by rw [unsaved_of_not_about houtermost]; rfl⟩
    | some name => exact ⟨savepoint ++ name, _, _, rfl, by rw [unsaved_of_about (hsavepoint name)]; rfl⟩

theorem corresponds_planBegin (transaction : Transaction) :
    Corresponds folds hook (.ok (transaction.planBegin (.ansi supportsReturning)))
      (.ok (transaction.planBegin (.snowflake folds hook))) := by
  right
  cases hopen : transaction.boundaries with
  | nil =>
    rw [planBegin_nil hopen, planBegin_nil hopen]
    exact ⟨"begin", _, _, rfl, rfl⟩
  | cons boundary boundaries =>
    rw [planBegin_cons hopen, planBegin_cons hopen]
    exact ⟨_, _, _, rfl, by rw [unsaved_of_about (aboutSavepoint_savepoint _)]⟩

theorem corresponds_plan (crossing : Crossing) (transaction : Transaction) :
    Corresponds folds hook (transaction.plan (.ansi supportsReturning) crossing)
      (transaction.plan (.snowflake folds hook) crossing) := by
  cases crossing with
  | begin => exact corresponds_planBegin transaction
  | commit => exact corresponds_planClose rfl aboutSavepoint_release _ transaction
  | rollback => exact corresponds_planClose rfl aboutSavepoint_rollbackTo _ transaction
  | savepoint name =>
    exact .inr ⟨_, _, _, rfl, by rw [unsaved_of_about (aboutSavepoint_savepoint name)]; rfl⟩
  | release name =>
    exact .inr ⟨_, _, _, rfl, by rw [unsaved_of_about (aboutSavepoint_release name)]; rfl⟩
  | rollbackTo name =>
    exact .inr ⟨_, _, _, rfl, by rw [unsaved_of_about (aboutSavepoint_rollbackTo name)]; rfl⟩

/-- The transactions are the same; the statements of one rehearsal are those of the other without the ones
about savepoints, which it has warned about. -/
structure Projects (plain other : Scope Rehearsal) : Prop where
  transaction : plain.transaction = other.transaction
  plainServes : plain.host.failures = []
  serves : other.host.failures = []
  sent : other.host.sent = plain.host.sent.filter (!aboutSavepoint ·)
  warned : other.host.warnings.length = plain.host.sent.countP aboutSavepoint

theorem Projects.cross {plain other : Scope Rehearsal} (crossing : Crossing) (h : Projects plain other) :
    (cross (.ansi supportsReturning) Rehearsal.host crossing plain).1 =
        (cross (.snowflake folds hook) Rehearsal.host crossing other).1 ∧
      Projects (cross (.ansi supportsReturning) Rehearsal.host crossing plain).2
        (cross (.snowflake folds hook) Rehearsal.host crossing other).2 := by
  have hplans : Corresponds folds hook (plain.transaction.plan (.ansi supportsReturning) crossing)
      (plain.transaction.plan (.snowflake folds hook) crossing) :=
    corresponds_plan crossing plain.transaction
  obtain ⟨htransaction, hplain, hserves, hsent, hwarned⟩ := h
  rcases hplans with ⟨e, hrefused, hother⟩ | ⟨sql, before, after, hplanned, hother⟩
  · rw [htransaction] at hother
    rw [cross_refused hrefused, cross_refused hother]
    exact ⟨rfl, htransaction, hplain, hserves, hsent, hwarned⟩
  · rw [htransaction] at hother
    rw [cross_rehearsed hplain hplanned, cross_rehearsed hserves hother]
    refine ⟨rfl, rfl, hplain, by simpa using hserves, ?_, ?_⟩
    · cases habout : aboutSavepoint sql with
      | true => simp [unsaved, habout, Effect.savepoint, Rehearsal.noting, hsent]
      | false => simp [unsaved, habout, Rehearsal.noting, hsent]
    · cases habout : aboutSavepoint sql with
      | true => simp [unsaved, habout, Effect.savepoint, Rehearsal.noting, hwarned]
      | false => simp [unsaved, habout, Rehearsal.noting, hwarned]

/-! ### Turns -/

/-- The outermost boundary has no name, and all others have one. -/
inductive Layered : List (Option String) → Prop where
  | nothing : Layered []
  | outermost : Layered [none]
  | savepoint {boundary : Option String} {boundaries : List (Option String)} {name : String} :
      Layered (boundary :: boundaries) → Layered (some name :: boundary :: boundaries)

/-- A transaction of the database is open exactly if a boundary is. -/
structure Alternates (scope : Scope Rehearsal) : Prop where
  serves : scope.host.failures = []
  layered : Layered scope.transaction.boundaries
  turns : TakesTurns (!scope.transaction.boundaries.isEmpty) scope.host.sent

variable {scope : Scope Rehearsal}

theorem Alternates.begin (h : Alternates scope) :
    Alternates (cross (.snowflake folds hook) Rehearsal.host .begin scope).2 := by
  obtain ⟨serves, layered, turns⟩ := h
  rw [cross_rehearsed serves (plan_begin _ _)]
  cases hopen : scope.transaction.boundaries with
  | nil =>
    rw [hopen] at turns
    rw [planBegin_nil hopen]
    exact ⟨serves, .outermost, .begin turns⟩
  | cons boundary boundaries =>
    rw [hopen] at layered turns
    rw [planBegin_cons hopen]
    exact ⟨serves, .savepoint layered, turns⟩

theorem Alternates.close {outermost savepoint : String} {missing : Error} (h : Alternates scope)
    (houtermost : ∀ {sql}, TakesTurns true sql → TakesTurns false (sql ++ [outermost]))
    (hplan : scope.transaction.plan (.snowflake folds hook) crossing =
      scope.transaction.planClose (.snowflake folds hook) outermost savepoint missing) :
    Alternates (cross (.snowflake folds hook) Rehearsal.host crossing scope).2 := by
  obtain ⟨serves, layered, turns⟩ := h
  cases hopen : scope.transaction.boundaries with
  | nil =>
    rw [planClose_nil hopen] at hplan
    rw [cross_refused hplan]
    exact ⟨serves, layered, turns⟩
  | cons boundary boundaries =>
    rw [planClose_cons hopen] at hplan
    rw [hopen] at layered turns
    rw [cross_rehearsed serves hplan]
    cases layered with
    | outermost => exact ⟨serves, .nothing, houtermost turns⟩
    | savepoint hrest => exact ⟨serves, hrest, turns⟩

theorem Alternates.cross (h : Alternates scope) (crossing : Crossing) :
    Alternates (cross (.snowflake folds hook) Rehearsal.host crossing scope).2 := by
  cases crossing with
  | begin => exact h.begin
  | commit => exact h.close .commit rfl
  | rollback => exact h.close .rollback rfl
  | savepoint name | release name | rollbackTo name =>
    rw [cross_rehearsed h.serves rfl]
    exact ⟨h.serves, h.layered, h.turns⟩

/-- Whatever boundaries are crossed: with savepoints and without them every crossing ends alike and at the
same depth. Without them the statements sent are the others, in which a transaction is begun and ended in
turns, and there is one warning for each statement left out. -/
theorem crossEach_projects (supportsReturning folds : Bool) (hook : Option Hook)
    (crossings : List Crossing) :
    let plain := crossEach (.ansi supportsReturning) Rehearsal.host crossings { host := {} }
    let other := crossEach (.snowflake folds hook) Rehearsal.host crossings { host := {} }
    plain.1 = other.1 ∧ plain.2.transaction.depth = other.2.transaction.depth ∧
      other.2.host.sent = plain.2.host.sent.filter (!aboutSavepoint ·) ∧
      TakesTurns (!other.2.transaction.boundaries.isEmpty) other.2.host.sent ∧
      other.2.host.warnings.length = plain.2.host.sent.countP aboutSavepoint := by
  intro plain other
  have hfresh : Projects { host := {} } { host := {} } := ⟨rfl, rfl, rfl, rfl, rfl⟩
  have hfreshTurns : Alternates { host := {} } := ⟨rfl, .nothing, .nil⟩
  have hdepth : ∀ {s t}, Projects s t → s.transaction.depth = t.transaction.depth :=
    fun h => congrArg depth h.transaction
  obtain ⟨houtcomes, hprojects⟩ : plain.1 = other.1 ∧ Projects plain.2 other.2 :=
    crossEach_relates hdepth (fun crossing _ _ h => h.cross crossing) crossings hfresh
  have hturns : Alternates other.2 := crossEach_keeps (fun crossing _ _ h => h.cross crossing) hfreshTurns
  exact ⟨houtcomes, hdepth hprojects, hprojects.sent, hturns.turns, hprojects.warned⟩

end SqlBuilder.Transaction
