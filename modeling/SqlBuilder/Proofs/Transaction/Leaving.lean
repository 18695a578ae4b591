import SqlBuilder.Transaction.Program
import SqlBuilder.Proofs.Run.Sequence
import SqlBuilder.Proofs.Transaction.Bracketing

/-!
How blocks are left. Main statement: where no statement fails, a block ends as what stands in it does, and
it closes its own boundary, and no other, exactly if it is not left by an interrupt.
-/

namespace SqlBuilder.Transaction

variable {σ : Type} {dialect : Dialect}

/-! ### Blocks over any host -/

section

variable {α : Type} {host : Host σ} {body : Run (Scope σ) α} {scope opened s t : Scope σ} {e : Error}

theorem enclose_eq (hbegin : cross dialect host .begin scope = (.ok (), opened)) :
    enclose dialect host body scope = (Run.attempt body >>= fun outcome =>
      match outcome with
      | .ok a => do
        cross dialect host .commit
        return a
      | .error e => do
        if e.isFailure then cross dialect host .rollback
        Run.fail e) opened :=
  Run.bind_ok hbegin

theorem enclose_done {a : α} (hbegin : cross dialect host .begin scope = (.ok (), opened))
    (hbody : body opened = (.ok a, s)) (hcommit : cross dialect host .commit s = (.ok (), t)) :
    enclose dialect host body scope = (.ok a, t) := by
  have hattempt : Run.attempt body opened = (.ok (.ok a), s) := by simp [Run.attempt, hbody]
  rw [enclose_eq hbegin, Run.bind_ok hattempt]
  exact Run.bind_ok hcommit

theorem enclose_failed (hbegin : cross dialect host .begin scope = (.ok (), opened))
    (hbody : body opened = (.error e, s)) (hfailure : e.isFailure = true)
    (hrollback : cross dialect host .rollback s = (.ok (), t)) :
    enclose dialect host body scope = (.error e, t) := by
  have hattempt : Run.attempt body opened = (.ok (.error e), s) := by simp [Run.attempt, hbody]
  rw [enclose_eq hbegin, Run.bind_ok hattempt]
  simp only [hfailure, if_true]
  exact Run.bind_ok hrollback

theorem enclose_interrupted (hbegin : cross dialect host .begin scope = (.ok (), opened))
    (hbody : body opened = (.error e, s)) (hinterrupt : e.isFailure = false) :
    enclose dialect host body scope = (.error e, s) := by
  have hattempt : Run.attempt body opened = (.ok (.error e), s) := by simp [Run.attempt, hbody]
  rw [enclose_eq hbegin, Run.bind_ok hattempt]
  simp only [hinterrupt]
  rfl

section

variable {crossing : Crossing} {sql : String} {before after : Transaction} {last : σ}
  (h : scope.transaction.plan dialect crossing = .ok ⟨.send sql, before, after⟩)

include h

theorem cross_sent (hsend : host.send sql scope.host = (.ok (), last)) :
    cross dialect host crossing scope = (.ok (), ⟨last, after⟩) :=
  cross_done h hsend

theorem cross_unsent (hsend : host.send sql scope.host = (.error e, last)) :
    cross dialect host crossing scope = (.error e, ⟨last, before⟩) :=
  cross_failed h hsend

end

/-- The outermost boundary is closed by one statement, and then the block ends as it would. -/
theorem close_outermost {crossing : Crossing} {sql : String}
    (h : ({ boundaries := [none] } : Transaction).plan dialect crossing = .ok ⟨.send sql, {}, {}⟩)
    (outcome : Except Error α) (s : σ) :
    Prod.map id Scope.host
        ((cross dialect host crossing >>= fun _ => Run.ofExcept outcome) ⟨s, { boundaries := [none] }⟩) =
      (host.send sql >>= fun _ => Run.ofExcept outcome) s := by
  cases hsend : host.send sql s with
  | mk closed last =>
    cases closed with
    | ok u =>
      have hcross : cross dialect host crossing ⟨s, { boundaries := [none] }⟩ = (.ok (), ⟨last, {}⟩) :=
        cross_sent h hsend
      rw [Run.bind_ok hcross, Run.bind_ok hsend]
      rfl
    | error e =>
      have hcross : cross dialect host crossing ⟨s, { boundaries := [none] }⟩ = (.error e, ⟨last, {}⟩) :=
        cross_unsent h hsend
      rw [Run.bind_error hcross, Run.bind_error hsend]
      rfl

/-- A block by itself, in which no boundary is crossed, is a transaction of the database. -/
theorem alone_enclose_onHost (dialect : Dialect) (host : Host σ) (body : Run σ α) :
    alone (enclose dialect host (onHost body)) = (do
      host.send "begin"
      match ← Run.attempt body with
      | .ok a => do
        host.send "commit"
        return a
      | .error e => do
        if e.isFailure then host.send "rollback"
        Run.fail e) := by
  funext s
  cases hbegin : host.send "begin" s with
  | mk begun opened =>
    cases begun with
    | error e =>
      have hcross : cross dialect host .begin { host := s } = (.error e, ⟨opened, {}⟩) :=
        cross_unsent rfl hbegin
      rw [Run.bind_error hbegin, alone, enclose, Run.bind_error hcross]
    | ok u =>
      have hcross : cross dialect host .begin { host := s } =
          (.ok (), ⟨opened, { boundaries := [none] }⟩) := cross_sent rfl hbegin
      rw [Run.bind_ok hbegin, alone, enclose_eq hcross]
      cases hbody : body opened with
      | mk outcome after =>
        have hattempt : Run.attempt (onHost body) ⟨opened, { boundaries := [none] }⟩ =
            (.ok outcome, ⟨after, { boundaries := [none] }⟩) := by
          simp [Run.attempt, onHost, Run.within, hbody]
        rw [Run.bind_ok hattempt, Run.bind_ok (Run.attempt_eq hbody)]
        cases outcome with
        | ok a => exact close_outermost rfl (.ok a) after
        | error e =>
          cases hfailure : e.isFailure with
          | false =>
            simp only [hfailure]
            rfl
          | true =>
            simp only [hfailure, if_true]
            exact close_outermost rfl (.error e) after

end

/-! ### Opening and closing -/

/-- An interrupt, which no handler deals with, is what a computation came to. -/
def isInterrupt : Except Error Unit → Bool
  | .ok () => false
  | .error e => !e.isFailure

/-- The boundary that is opened next: the outermost one has no name. -/
def nextBoundary (transaction : Transaction) : Option String :=
  match transaction.boundaries with
  | [] => none
  | _ => some (savepointName transaction.nextSavepoint)

def opening (dialect : Dialect) : Option String → Effect
  | none => .send "begin"
  | some name => .savepoint dialect ("savepoint " ++ name)

/-- What happened inside a boundary is kept if all went well, and else taken back. -/
def closing (dialect : Dialect) (outcome : Except Error Unit) : Option String → Effect
  | none => .send (if outcome.isOk then "commit" else "rollback")
  | some name =>
    .savepoint dialect ((if outcome.isOk then "release savepoint " else "rollback to savepoint ") ++ name)

theorem planBegin_opening (dialect : Dialect) (transaction : Transaction) :
    (transaction.planBegin dialect).effect = opening dialect transaction.nextBoundary ∧
      (transaction.planBegin dialect).after.boundaries =
        transaction.nextBoundary :: transaction.boundaries := by
  cases hopen : transaction.boundaries with
  | nil =>
    rw [planBegin_nil hopen]
    simp [nextBoundary, opening, hopen]
  | cons boundary boundaries =>
    rw [planBegin_cons hopen]
    simp [nextBoundary, opening, hopen]

/-- How the innermost boundary is closed goes by what the inside of it came to. -/
theorem plan_closing {transaction : Transaction} {boundary : Option String}
    {boundaries : List (Option String)} (hopen : transaction.boundaries = boundary :: boundaries)
    (outcome : Except Error Unit) :
    transaction.plan dialect (if outcome.isOk then .commit else .rollback) = .ok {
      effect := closing dialect outcome boundary
      before := { transaction with boundaries }
      after := { transaction with boundaries } } := by
  cases outcome with
  | ok u =>
    refine (planClose_cons hopen ..).trans ?_
    cases boundary <;> rfl
  | error e =>
    refine (planClose_cons hopen ..).trans ?_
    cases boundary <;> rfl

theorem endsSavepoint_closing (dialect : Dialect) (outcome : Except Error Unit) (name : String) :
    ∃ ending, EndsSavepoint name ending ∧
      closing dialect outcome (some name) = .savepoint dialect ending := by
  cases outcome with
  | ok u => exact ⟨_, .inl rfl, rfl⟩
  | error e => exact ⟨_, .inr rfl, rfl⟩

/-! ### Notes of several effects -/

namespace Rehearsal

def notingEach (rehearsal : Rehearsal) (effects : List Effect) : Rehearsal :=
  effects.foldl noting rehearsal

theorem notingEach_append (rehearsal : Rehearsal) (effects more : List Effect) :
    rehearsal.notingEach (effects ++ more) = (rehearsal.notingEach effects).notingEach more :=
  List.foldl_append

@[simp] theorem failures_notingEach (rehearsal : Rehearsal) (effects : List Effect) :
    (rehearsal.notingEach effects).failures = rehearsal.failures := by
  induction effects generalizing rehearsal with
  | nil => rfl
  | cons effect effects ih => exact (ih _).trans (failures_noting rehearsal effect)

end Rehearsal

/-- The trace of a program makes no difference to its crossings. -/
theorem cross_traced {crossing : Crossing} {scope : Scope (Traced Rehearsal)} {plan : Plan}
    (hserves : scope.host.host.failures = []) (h : scope.transaction.plan dialect crossing = .ok plan) :
    cross dialect (Program.traced Rehearsal.host) crossing scope =
      (.ok (), ⟨{ scope.host with host := scope.host.host.noting plan.effect }, plan.after⟩) := by
  have hperform : (Program.traced Rehearsal.host).perform plan.effect scope.host =
      (.ok (), { scope.host with host := scope.host.host.noting plan.effect }) := by
    have hhost := Rehearsal.perform_eq hserves plan.effect
    cases heffect : plan.effect with
    | send sql =>
      rw [heffect] at hhost
      simp only [Host.perform] at hhost
      simp [Host.perform, Program.traced, Run.within, hhost]
    | warn message =>
      rw [heffect] at hhost
      simp only [Host.perform] at hhost
      simp [Host.perform, Program.traced, Run.within, hhost]
  exact cross_done h hperform

/-! ### What programs of blocks leave behind -/

/-- Programs that cross boundaries only by entering and leaving blocks. -/
inductive Program.Structured : Program → Prop where
  | raise (e : Error) : Structured (.raise e)
  | guarded {step : Program} : Structured step → Structured (.guarded step)
  | block {steps : List Program} : (∀ step ∈ steps, Structured step) → Structured (.block steps)

/-- What a block comes to before it is left: it is entered, and its steps are run. -/
def Program.inside (dialect : Dialect) (host : Host σ) (steps : List Program) :
    Run (Scope (Traced σ)) Unit := do
  Transaction.cross dialect (traced host) .begin
  trace .entered
  runEach dialect host steps

/-- The boundaries are what they were, and the savepoints opened since then are closed. -/
structure Settled (dialect : Dialect) (before after : Scope (Traced Rehearsal)) : Prop where
  boundaries : after.transaction.boundaries = before.transaction.boundaries
  effects : ∃ inside, Nested inside ∧
    after.host.host = before.host.host.notingEach (inside.map (Effect.savepoint dialect))

/-- The boundaries are what they were. One was opened, the savepoints opened inside it were closed, and
then it was closed itself in the way that the outcome asks for. -/
structure Restored (dialect : Dialect) (before : Scope (Traced Rehearsal))
    (left : Except Error Unit × Scope (Traced Rehearsal)) : Prop where
  boundaries : left.2.transaction.boundaries = before.transaction.boundaries
  effects : ∃ inside, Nested inside ∧ left.2.host.host = before.host.host.notingEach
    (opening dialect before.transaction.nextBoundary :: inside.map (Effect.savepoint dialect) ++
      [closing dialect left.1 before.transaction.nextBoundary])

/-- Inside a boundary: only after an interrupt are more boundaries open than before. -/
structure Ends (dialect : Dialect) (before : Scope (Traced Rehearsal))
    (ended : Except Error Unit × Scope (Traced Rehearsal)) : Prop where
  settled : isInterrupt ended.1 = false → Settled dialect before ended.2
  interrupted : isInterrupt ended.1 = true → before.transaction.depth ≤ ended.2.transaction.depth

variable {before after last : Scope (Traced Rehearsal)} {ended : Except Error Unit × Scope (Traced Rehearsal)}

theorem settled_self : Settled dialect before before :=
  ⟨rfl, [], .nil, rfl⟩

theorem Settled.trans (h : Settled dialect before after) (hnext : Settled dialect after last) :
    Settled dialect before last := by
  obtain ⟨hboundaries, inside, hinside, hhost⟩ := h
  obtain ⟨hboundaries', more, hmore, hhost'⟩ := hnext
  refine ⟨hboundaries'.trans hboundaries, inside ++ more, hinside.append hmore, ?_⟩
  rw [hhost', hhost, List.map_append, Rehearsal.notingEach_append]

theorem Settled.serves (h : Settled dialect before after) (hserves : before.host.host.failures = []) :
    after.host.host.failures = [] := by
  obtain ⟨-, inside, -, hhost⟩ := h
  rw [hhost, Rehearsal.failures_notingEach, hserves]

/-- Entries of the trace are no effects. -/
theorem Settled.trace (h : Settled dialect before after) (entry : Nat → Trace) :
    Settled dialect before (Program.trace entry after).2 :=
  ⟨h.boundaries, h.effects⟩

theorem Settled.ends (hsettled : Settled dialect before after) (h : Ends dialect after ended) :
    Ends dialect before ended := by
  refine ⟨fun hcalm => hsettled.trans (h.settled hcalm), fun hinterrupt => ?_⟩
  have hdepth : after.transaction.depth = before.transaction.depth :=
    congrArg List.length hsettled.boundaries
  exact hdepth ▸ h.interrupted hinterrupt

theorem ends_fail (e : Error) : Ends dialect before (.error e, before) :=
  ⟨fun _ => settled_self, fun _ => Nat.le_refl _⟩

/-- A block inside a boundary is a savepoint with savepoints inside. -/
theorem Restored.settled (h : Restored dialect before ended)
    (hopen : before.transaction.boundaries ≠ []) : Settled dialect before ended.2 := by
  obtain ⟨hboundaries, inside, hinside, hhost⟩ := h
  obtain ⟨name, hname⟩ : ∃ name, before.transaction.nextBoundary = some name := by
    unfold nextBoundary
    split
    · next hnil => exact absurd hnil hopen
    · exact ⟨_, rfl⟩
  obtain ⟨ending, hending, hclosing⟩ := endsSavepoint_closing dialect ended.1 name
  refine ⟨hboundaries, _, nested_singleton hinside hending, ?_⟩
  rw [hhost, hname, hclosing]
  simp [opening]

theorem Settled.ends_done (h : Settled dialect before after) : Ends dialect before (.ok (), after) :=
  ⟨fun _ => h, fun hinterrupt => nomatch hinterrupt⟩

/-- Interrupts pass a guard, and other failures are noted in the trace. -/
theorem ends_guarding {step : Run (Scope (Traced Rehearsal)) Unit} (h : Ends dialect before (step before)) :
    Ends dialect before (Program.guarding step before) := by
  cases hstep : step before with
  | mk outcome after =>
    rw [hstep] at h
    have hattempt : Run.attempt step before = (.ok outcome, after) := by simp [Run.attempt, hstep]
    rw [Program.guarding, Run.bind_ok hattempt]
    cases outcome with
    | ok u => exact h
    | error e =>
      cases hfailure : e.isFailure with
      | false =>
        simp only [hfailure]
        exact h
      | true =>
        have hsettled : Settled dialect before after := h.settled (by simp [isInterrupt, hfailure])
        simp only [hfailure]
        exact (hsettled.trace (.caught e)).ends_done

theorem Ends.bind {x y : Run (Scope (Traced Rehearsal)) Unit} (hx : Ends dialect before (x before))
    (hy : ∀ after, Settled dialect before after → Ends dialect after (y after)) :
    Ends dialect before ((x >>= fun _ => y) before) := by
  cases hfirst : x before with
  | mk outcome after =>
    rw [hfirst] at hx
    cases outcome with
    | error e => exact Run.bind_error hfirst ▸ hx
    | ok u =>
      have hsettled : Settled dialect before after := hx.settled rfl
      exact Run.bind_ok hfirst ▸ hsettled.ends (hy after hsettled)

theorem ends_runEach {steps : List Program} (hserves : before.host.host.failures = [])
    (hopen : before.transaction.boundaries ≠ [])
    (hsteps : ∀ step ∈ steps, ∀ scope : Scope (Traced Rehearsal), scope.host.host.failures = [] →
      scope.transaction.boundaries ≠ [] →
        Ends dialect scope (Program.run dialect Rehearsal.host step scope)) :
    Ends dialect before (Program.runEach dialect Rehearsal.host steps before) := by
  induction steps generalizing before with
  | nil => exact settled_self.ends_done
  | cons step steps ih =>
    obtain ⟨hstep, hrest⟩ := List.forall_mem_cons.mp hsteps
    refine (hstep before hserves hopen).bind fun after hsettled => ?_
    exact ih (hsettled.serves hserves) (hsettled.boundaries ▸ hopen) hrest

/-! ### Blocks -/

/-- How a block is left: restored, or by an interrupt that leaves it as it stood. -/
structure Leaves (dialect : Dialect) (before : Scope (Traced Rehearsal))
    (body left : Except Error Unit × Scope (Traced Rehearsal)) : Prop where
  outcome : left.1 = body.1
  restored : isInterrupt left.1 = false → Restored dialect before left
  interrupted : isInterrupt left.1 = true →
    left = body ∧ before.transaction.depth < left.2.transaction.depth

theorem run_block_eq (host : Host σ) (steps : List Program) :
    Program.run dialect host (.block steps) = (do
      enclose dialect (Program.traced host) (do
        Program.trace .entered
        Program.runEach dialect host steps)
      Program.trace .exited) :=
  rfl

theorem begin_traced (dialect : Dialect) (hserves : before.host.host.failures = []) :
    ∃ opened, cross dialect (Program.traced Rehearsal.host) .begin before = (.ok (), opened) ∧
      opened.transaction.boundaries = before.transaction.nextBoundary :: before.transaction.boundaries ∧
      opened.host.host = before.host.host.noting (opening dialect before.transaction.nextBoundary) := by
  obtain ⟨heffect, hafter⟩ := planBegin_opening dialect before.transaction
  exact ⟨_, cross_traced hserves (plan_begin _ _), hafter, by rw [heffect]⟩

theorem close_traced (dialect : Dialect) (hserves : before.host.host.failures = []) {boundary : Option String}
    {boundaries : List (Option String)} (hopen : before.transaction.boundaries = boundary :: boundaries)
    (outcome : Except Error Unit) :
    ∃ closed, cross dialect (Program.traced Rehearsal.host)
        (if outcome.isOk then .commit else .rollback) before = (.ok (), closed) ∧
      closed.transaction.boundaries = boundaries ∧
      closed.host.host = before.host.host.noting (closing dialect outcome boundary) :=
  ⟨_, cross_traced hserves (plan_closing hopen outcome), rfl, rfl⟩

/-- A boundary opened, what is settled inside it, and the boundary closed. -/
theorem restored_of_settled {opened closed : Scope (Traced Rehearsal)} {outcome : Except Error Unit}
    (hopened : opened.host.host = before.host.host.noting (opening dialect before.transaction.nextBoundary))
    (hsettled : Settled dialect opened after)
    (hboundaries : closed.transaction.boundaries = before.transaction.boundaries)
    (hclosed : closed.host.host =
      after.host.host.noting (closing dialect outcome before.transaction.nextBoundary)) :
    Restored dialect before (outcome, closed) := by
  obtain ⟨-, inside, hinside, hhost⟩ := hsettled
  refine ⟨hboundaries, inside, hinside, ?_⟩
  rw [hclosed, hhost, hopened, Rehearsal.notingEach_append]
  rfl

section

variable {opened closed : Scope (Traced Rehearsal)} {steps : List Program} {e : Error}

/-- An interrupted block is what its body came to. -/
theorem leaves_interrupted
    (hbegin : cross dialect (Program.traced Rehearsal.host) .begin before = (.ok (), opened))
    (hbody : (Program.trace .entered >>= fun _ => Program.runEach dialect Rehearsal.host steps) opened =
      (.error e, after))
    (hinterrupt : e.isFailure = false) (hdepth : before.transaction.depth < after.transaction.depth) :
    Leaves dialect before (.error e, after) (Program.run dialect Rehearsal.host (.block steps) before) := by
  have hleft : Program.run dialect Rehearsal.host (.block steps) before = (.error e, after) := by
    rw [run_block_eq]
    exact Run.bind_error (enclose_interrupted hbegin hbody hinterrupt)
  rw [hleft]
  exact ⟨rfl, by simp [isInterrupt, hinterrupt], fun _ => ⟨rfl, hdepth⟩⟩

/-- A block that is not interrupted closes its boundary after its body. -/
theorem leaves_closed {outcome : Except Error Unit}
    (hbegin : cross dialect (Program.traced Rehearsal.host) .begin before = (.ok (), opened))
    (hbody : (Program.trace .entered >>= fun _ => Program.runEach dialect Rehearsal.host steps) opened =
      (outcome, after))
    (hcalm : isInterrupt outcome = false)
    (hclose : cross dialect (Program.traced Rehearsal.host)
      (if outcome.isOk then .commit else .rollback) after = (.ok (), closed))
    (hrestored : Restored dialect before (outcome, closed)) :
    Leaves dialect before (outcome, after) (Program.run dialect Rehearsal.host (.block steps) before) := by
  cases outcome with
  | ok u =>
    have hleft : Program.run dialect Rehearsal.host (.block steps) before =
        (.ok (), (Program.trace .exited closed).2) := by
      rw [run_block_eq]
      exact Run.bind_ok (enclose_done hbegin hbody hclose)
    rw [hleft]
    exact ⟨rfl, fun _ => ⟨hrestored.boundaries, hrestored.effects⟩, by simp [isInterrupt]⟩
  | error e =>
    have hleft : Program.run dialect Rehearsal.host (.block steps) before = (.error e, closed) := by
      rw [run_block_eq]
      exact Run.bind_error (enclose_failed hbegin hbody (by simpa [isInterrupt] using hcalm) hclose)
    rw [hleft]
    exact ⟨rfl, fun _ => hrestored, by simp [hcalm]⟩

end

theorem leaves_block {steps : List Program} (hserves : before.host.host.failures = [])
    (hsteps : ∀ scope : Scope (Traced Rehearsal), scope.host.host.failures = [] →
      scope.transaction.boundaries ≠ [] →
        Ends dialect scope (Program.runEach dialect Rehearsal.host steps scope)) :
    Leaves dialect before (Program.inside dialect Rehearsal.host steps before)
      (Program.run dialect Rehearsal.host (.block steps) before) := by
  obtain ⟨opened, hbegin, hopen, hopened⟩ := begin_traced dialect hserves
  have hopenedServes : opened.host.host.failures = [] := by
    rw [hopened, Rehearsal.failures_noting, hserves]
  have hentered : Settled dialect opened (Program.trace .entered opened).2 := settled_self.trace .entered
  have hbody : Ends dialect opened
      ((Program.trace .entered >>= fun _ => Program.runEach dialect Rehearsal.host steps) opened) :=
    hentered.ends (hsteps _ (hentered.serves hopenedServes) (by rw [hentered.boundaries, hopen]; simp))
  rw [Program.inside, Run.bind_ok hbegin]
  cases hrun : (Program.trace .entered >>= fun _ => Program.runEach dialect Rehearsal.host steps) opened with
  | mk outcome after =>
    rw [hrun] at hbody
    cases hinterrupt : isInterrupt outcome with
    | false =>
      have hsettled : Settled dialect opened after := hbody.settled hinterrupt
      obtain ⟨closed, hclose, hboundaries, hclosed⟩ := close_traced dialect
        (hsettled.serves hopenedServes) (hsettled.boundaries.trans hopen) outcome
      exact leaves_closed hbegin hrun hinterrupt hclose
        (restored_of_settled hopened hsettled hboundaries hclosed)
    | true =>
      have hdepth : opened.transaction.depth ≤ after.transaction.depth := hbody.interrupted hinterrupt
      have hdeeper : opened.transaction.depth = before.transaction.depth + 1 := congrArg List.length hopen
      cases outcome with
      | ok u => cases hinterrupt
      | error e =>
        exact leaves_interrupted hbegin hrun (by simpa [isInterrupt] using hinterrupt) (by omega)

theorem Leaves.ends {body left : Except Error Unit × Scope (Traced Rehearsal)}
    (h : Leaves dialect before body left) (hopen : before.transaction.boundaries ≠ []) :
    Ends dialect before left :=
  ⟨fun hcalm => (h.restored hcalm).settled hopen,
    fun hinterrupt => Nat.le_of_lt (h.interrupted hinterrupt).2⟩

theorem Program.Structured.ends {step : Program} (h : step.Structured) :
    ∀ scope : Scope (Traced Rehearsal), scope.host.host.failures = [] →
      scope.transaction.boundaries ≠ [] →
        Ends dialect scope (Program.run dialect Rehearsal.host step scope) := by
  induction h with
  | raise e => exact fun _ _ _ => ends_fail e
  | guarded _ ih => exact fun scope hserves hopen => ends_guarding (ih scope hserves hopen)
  | block _ ih =>
    intro scope hserves hopen
    exact (leaves_block hserves fun _ hserves hopen => ends_runEach hserves hopen ih).ends hopen

/-- A block ends as what stands in it does, whatever blocks and failures these are. It gives back the
boundaries and closes its own, by one statement after all that was opened inside, exactly if it is not left
by an interrupt; an interrupt closes nothing, so that it leaves more boundaries open than there were. -/
theorem run_block_restored_iff {steps : List Program} (hsteps : ∀ step ∈ steps, step.Structured)
    {scope : Scope (Traced Rehearsal)} (hserves : scope.host.host.failures = []) :
    let body := Program.inside dialect Rehearsal.host steps scope
    let left := Program.run dialect Rehearsal.host (.block steps) scope
    left.1 = body.1 ∧ (Restored dialect scope left ↔ isInterrupt left.1 = false) ∧
      (isInterrupt left.1 = true → left = body ∧ scope.transaction.depth < left.2.transaction.depth) := by
  intro body left
  have hleaves : Leaves dialect scope body left :=
    leaves_block hserves fun _ hserves hopen =>
      ends_runEach hserves hopen fun step hmem => (hsteps step hmem).ends
  refine ⟨hleaves.outcome, ⟨fun hrestored => ?_, hleaves.restored⟩, hleaves.interrupted⟩
  cases hinterrupt : isInterrupt left.1 with
  | false => rfl
  | true =>
    have hdepth : left.2.transaction.depth = scope.transaction.depth :=
      congrArg List.length hrestored.boundaries
    have hdeeper := (hleaves.interrupted hinterrupt).2
    omega

/-- A failure is caught between two blocks, and then an interrupt is raised in the inner one of two. -/
theorem run_block_restored_iff_interrupted :
    let failing : Program := .guarded (.block [.raise (.raised .value "boom")])
    let interrupted : Program := .block [.raise (.raised .interrupt "")]
    let steps := [failing, interrupted]
    let scope : Scope (Traced Rehearsal) := { host := { host := {} } }
    let body := Program.inside (.ansi false) Rehearsal.host steps scope
    let left := Program.run (.ansi false) Rehearsal.host (.block steps) scope
    ((∀ step ∈ steps, step.Structured) ∧ scope.host.host.failures = []) ∧
      left.1 = body.1 ∧ (Restored (.ansi false) scope left ↔ isInterrupt left.1 = false) ∧
      (isInterrupt left.1 = true → left = body ∧ scope.transaction.depth < left.2.transaction.depth) := by
  intro failing interrupted steps scope body left
  have hraising : ∀ e, (Program.block [.raise e]).Structured :=
    fun e => .block (List.forall_mem_singleton.mpr (.raise e))
  have hsteps : ∀ step ∈ steps, step.Structured :=
    List.forall_mem_cons.mpr ⟨.guarded (hraising _), List.forall_mem_singleton.mpr (hraising _)⟩
  exact ⟨⟨hsteps, rfl⟩, run_block_restored_iff hsteps rfl⟩

/-- The transaction of a block that an interrupt leaves is neither committed nor rolled back. -/
theorem interrupted_block_stays_open :
    let left := Program.run (.ansi false) Rehearsal.host (.block [.raise (.raised .interrupt "")])
      { host := { host := {} } }
    left.1 = .error (.raised .interrupt "") ∧ left.2.transaction.depth = 1 ∧
      left.2.host.host.sent = ["begin"] :=
  ⟨rfl, rfl, rfl⟩

end SqlBuilder.Transaction
