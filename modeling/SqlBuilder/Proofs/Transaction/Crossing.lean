import SqlBuilder.Transaction.Rehearsal

/-!
A single crossing of a boundary, over any host. Main statement: when the statement that a crossing sends
fails, the boundaries are what they were exactly if the crossing was to close none.
-/

namespace SqlBuilder

/-- The innermost boundary is to be closed. -/
def Crossing.closes : Crossing → Bool
  | .commit => true
  | .rollback => true
  | _ => false

namespace Transaction

variable {σ : Type} {dialect : Dialect} {host : Host σ} {crossing : Crossing} {scope : Scope σ}
  {plan : Plan} {e : Error} {s : σ}

/-! ### How a crossing ends -/

/-- What cannot be planned fails, and nothing is done. -/
theorem cross_refused (h : scope.transaction.plan dialect crossing = .error e) :
    cross dialect host crossing scope = (.error e, scope) := by
  have hread : Run.read (·.transaction) scope = (.ok scope.transaction, scope) := rfl
  have hplan : (liftM (scope.transaction.plan dialect crossing) : Run (Scope σ) Plan) scope =
      (.error e, scope) := by
    rw [h]
    rfl
  exact (Run.bind_ok hread).trans (Run.bind_error hplan)

theorem cross_planned (h : scope.transaction.plan dialect crossing = .ok plan) :
    cross dialect host crossing scope =
      (onHost (host.perform plan.effect) >>= fun _ => enter plan.after)
        { scope with transaction := plan.before } := by
  have hread : Run.read (·.transaction) scope = (.ok scope.transaction, scope) := rfl
  have hplan : (liftM (scope.transaction.plan dialect crossing) : Run (Scope σ) Plan) scope =
      (.ok plan, scope) := by
    rw [h]
    rfl
  have henter : enter plan.before scope = (.ok (), { scope with transaction := plan.before }) := rfl
  exact (Run.bind_ok hread).trans ((Run.bind_ok hplan).trans (Run.bind_ok henter))

theorem cross_failed (h : scope.transaction.plan dialect crossing = .ok plan)
    (hfails : host.perform plan.effect scope.host = (.error e, s)) :
    cross dialect host crossing scope = (.error e, ⟨s, plan.before⟩) := by
  have hhost : onHost (host.perform plan.effect) { scope with transaction := plan.before } =
      (.error e, ⟨s, plan.before⟩) := by
    simp [onHost, Run.within, hfails]
  rw [cross_planned h]
  exact Run.bind_error hhost

theorem cross_done (h : scope.transaction.plan dialect crossing = .ok plan)
    (hdone : host.perform plan.effect scope.host = (.ok (), s)) :
    cross dialect host crossing scope = (.ok (), ⟨s, plan.after⟩) := by
  have hhost : onHost (host.perform plan.effect) { scope with transaction := plan.before } =
      (.ok (), ⟨s, plan.before⟩) := by
    simp [onHost, Run.within, hdone]
  rw [cross_planned h]
  exact Run.bind_ok hhost

/-! ### Plans -/

theorem plan_begin (dialect : Dialect) (transaction : Transaction) :
    transaction.plan dialect .begin = .ok (transaction.planBegin dialect) :=
  rfl

/-- What closes a boundary differs in the words of its statements and of its failure alone. -/
theorem plan_of_closes (h : crossing.closes = true) :
    ∃ outermost savepoint missing, missing.kind = .transaction ∧
      ∀ (dialect : Dialect) (transaction : Transaction),
        transaction.plan dialect crossing = transaction.planClose dialect outermost savepoint missing := by
  cases crossing with
  | commit => exact ⟨_, _, .nothingToCommit, rfl, fun _ _ => rfl⟩
  | rollback => exact ⟨_, _, .nothingToRollBack, rfl, fun _ _ => rfl⟩
  | begin | savepoint name | release name | rollbackTo name => cases h

theorem planClose_nil {transaction : Transaction} (h : transaction.boundaries = [])
    (outermost savepoint : String) (missing : Error) :
    transaction.planClose dialect outermost savepoint missing = .error missing := by
  simp only [planClose, h]

theorem planClose_cons {transaction : Transaction} {boundary : Option String}
    {boundaries : List (Option String)} (h : transaction.boundaries = boundary :: boundaries)
    (outermost savepoint : String) (missing : Error) :
    transaction.planClose dialect outermost savepoint missing = .ok {
      effect := boundary.elim (.send outermost) fun name => .savepoint dialect (savepoint ++ name)
      before := { transaction with boundaries }
      after := { transaction with boundaries } } := by
  simp only [planClose, h]

theorem planBegin_nil {transaction : Transaction} (h : transaction.boundaries = []) :
    transaction.planBegin dialect = {
      effect := .send "begin"
      before := transaction
      after := { transaction with boundaries := [none] } } := by
  simp only [planBegin, h]

theorem planBegin_cons {transaction : Transaction} {boundary : Option String}
    {boundaries : List (Option String)} (h : transaction.boundaries = boundary :: boundaries) :
    transaction.planBegin dialect = {
      effect := .savepoint dialect ("savepoint " ++ savepointName transaction.nextSavepoint)
      before := { transaction with nextSavepoint := transaction.nextSavepoint + 1 }
      after := {
        boundaries := some (savepointName transaction.nextSavepoint) :: boundary :: boundaries
        nextSavepoint := transaction.nextSavepoint + 1 } } := by
  simp only [planBegin, h]

/-! ### Failures -/

/-- The statement that a crossing sends, if it sends one. -/
def statement? (dialect : Dialect) (crossing : Crossing) (transaction : Transaction) : Option String :=
  match transaction.plan dialect crossing with
  | .ok { effect := .send sql, .. } => some sql
  | _ => none

theorem statement?_eq_some {transaction : Transaction} {sql : String} :
    statement? dialect crossing transaction = some sql ↔
      ∃ plan, transaction.plan dialect crossing = .ok plan ∧ plan.effect = .send sql := by
  unfold statement?
  constructor
  · intro h
    split at h
    · next hplan => exact ⟨_, hplan, by rw [Option.some.inj h]⟩
    · cases h
  · rintro ⟨⟨_, _, _⟩, hplan, rfl⟩
    rw [hplan]

/-- What closes a boundary has done so before its statement is sent. -/
theorem before_of_closes {transaction : Transaction} (hcloses : crossing.closes = true)
    (h : transaction.plan dialect crossing = .ok plan) :
    ∃ boundary, transaction.boundaries = boundary :: plan.before.boundaries := by
  obtain ⟨outermost, savepoint, missing, -, hclose⟩ := plan_of_closes hcloses
  rw [hclose] at h
  cases hopen : transaction.boundaries with
  | nil =>
    rw [planClose_nil hopen] at h
    cases h
  | cons boundary boundaries =>
    rw [planClose_cons hopen] at h
    cases h
    exact ⟨boundary, rfl⟩

/-- What closes none leaves them as they are until its statement has been sent. -/
theorem before_of_not_closes {transaction : Transaction} (hcloses : crossing.closes = false)
    (h : transaction.plan dialect crossing = .ok plan) :
    plan.before.boundaries = transaction.boundaries := by
  cases crossing with
  | begin =>
    obtain rfl : transaction.planBegin dialect = plan := Except.ok.inj h
    cases hopen : transaction.boundaries with
    | nil => rw [planBegin_nil hopen]; exact hopen
    | cons boundary boundaries => rw [planBegin_cons hopen]; exact hopen
  | commit | rollback => cases hcloses
  | savepoint name | release name | rollbackTo name =>
    cases h
    rfl

/-- A crossing fails if its statement does, whatever boundaries are open. They are the same as before
exactly if the crossing was to close none of them: a failed commit or rollback leaves the innermost
one out. -/
theorem failed_keeps_boundaries_iff {sql : String}
    (hsent : statement? dialect crossing scope.transaction = some sql)
    (hfails : host.send sql scope.host = (.error e, s)) :
    ∃ after, cross dialect host crossing scope = (.error e, ⟨s, after⟩) ∧
      (after.boundaries = scope.transaction.boundaries ↔ crossing.closes = false) ∧
      (crossing.closes = true → after.depth + 1 = scope.transaction.depth) := by
  obtain ⟨plan, hplan, heffect⟩ := statement?_eq_some.mp hsent
  have hperform : host.perform plan.effect scope.host = (.error e, s) := by
    rw [heffect]
    exact hfails
  refine ⟨plan.before, cross_failed hplan hperform, ?_⟩
  cases hcloses : crossing.closes with
  | false => exact ⟨iff_of_true (before_of_not_closes hcloses hplan) rfl, by simp⟩
  | true =>
    obtain ⟨boundary, hboundaries⟩ := before_of_closes hcloses hplan
    simp [depth, hboundaries]

/-- The connection is lost when a savepoint is rolled back to. -/
theorem failed_rollbackTo_forgets :
    let lost : Error := .raised .operational "connection lost"
    let sql := "rollback to savepoint sp_1"
    let scope : Scope Rehearsal :=
      { host := { failures := [(sql, lost)] }
        transaction := { boundaries := [some "sp_1", none], nextSavepoint := 2 } }
    let sent : Rehearsal := { scope.host with sent := [sql] }
    statement? (.ansi false) .rollback scope.transaction = some sql ∧
      Rehearsal.host.send sql scope.host = (.error lost, sent) ∧
      ∃ after, cross (.ansi false) Rehearsal.host .rollback scope = (.error lost, ⟨sent, after⟩) ∧
        (after.boundaries = scope.transaction.boundaries ↔ Crossing.rollback.closes = false) ∧
        (Crossing.rollback.closes = true → after.depth + 1 = scope.transaction.depth) :=
  ⟨rfl, rfl, failed_keeps_boundaries_iff rfl rfl⟩

/-- After a commit that failed nothing is taken to be open, so that nothing can be rolled back. -/
theorem failed_commit_forgets :
    let lost : Error := .raised .operational "connection lost"
    let opened := (cross (.ansi false) Rehearsal.host .begin
      { host := { failures := [("commit", lost)] } }).2
    let failed := cross (.ansi false) Rehearsal.host .commit opened
    failed.1 = .error lost ∧ failed.2.transaction.boundaries ≠ opened.transaction.boundaries ∧
      cross (.ansi false) Rehearsal.host .rollback failed.2 = (.error .nothingToRollBack, failed.2) :=
  ⟨rfl, by decide, rfl⟩

end Transaction

end SqlBuilder
