import SqlBuilder.Proofs.Session.Sending

/-!
Drivers seen through a view of their state. Main statement: where each call of one driver looks like the
same call of another, what a session does with the one looks like what it does with the other.
-/

namespace SqlBuilder

/-- Through the view, each call of one driver looks like the same call of the other. -/
structure Driver.ViewsAs {τ δ : Type} (view : τ → δ) (driver : Driver τ) (seen : Driver δ) : Prop where
  isInstalled : ∀ t, seen.isInstalled (view t) = driver.isInstalled t
  connect : ∀ settings, Run.Views view (driver.connect settings) (seen.connect settings)
  openCursor : ∀ i, Run.Views view (driver.openCursor i) (seen.openCursor i)
  execute : ∀ i sql bindings options,
    Run.Views view (driver.execute i sql bindings options) (seen.execute i sql bindings options)
  rows : ∀ i, Run.Views view (driver.rows i) (seen.rows i)
  rowCount : ∀ i, Run.Views view (driver.rowCount i) (seen.rowCount i)
  close : ∀ i, Run.Views view (driver.close i) (seen.close i)
  now : Run.Views view driver.now seen.now

namespace Session

variable {τ δ α : Type} {view : τ → δ} {driver : Driver τ} {seen : Driver δ} {adapter : Adapter}

/-- The same session over what is seen of the driver's state. -/
def through (view : τ → δ) (session : Session τ) : Session δ where
  driver := view session.driver
  isLoaded := session.isLoaded
  handles := session.handles
  notes := session.notes

theorem views_read {f : Session τ → α} {g : Session δ → α}
    (h : ∀ session, g (session.through view) = f session) :
    Run.Views (through view) (Run.read f) (Run.read g) := by
  intro session
  simp [Run.read, h]

theorem views_change {f : Session τ → Session τ} {g : Session δ → Session δ}
    (h : ∀ session, g (session.through view) = (f session).through view) :
    Run.Views (through view) (Run.change f) (Run.change g) := by
  intro session
  simp [Run.change, h]

theorem views_onDriver {x : Run τ α} {y : Run δ α} (h : Run.Views view x y) :
    Run.Views (through view) (onDriver x) (onDriver y) := by
  intro session
  have hdriver : y (view session.driver) = ((x session.driver).1, view (x session.driver).2) :=
    h session.driver
  simp [onDriver, Run.within, through, hdriver]

theorem views_record (notes : List Note) : Run.Views (through view) (record notes) (record notes) :=
  views_change fun _ => rfl

theorem views_ofRecorded (x : Recorded α) : Run.Views (through view) (ofRecorded x) (ofRecorded x) :=
  (views_record x.notes).bind fun _ => Run.views_ofExcept x.outcome

theorem views_changeHandle (i : Nat) (f : Connection.Handle → Connection.Handle) :
    Run.Views (through view) (changeHandle i f) (changeHandle i f) :=
  views_change fun _ => rfl

theorem views_emit (i : Nat) (event : String) (errors : List Error) :
    Run.Views (through view) (emit i event errors) (emit i event errors) := by
  unfold emit
  refine (views_read fun _ => rfl).bind fun handles => ?_
  cases handles[i]? with
  | none => exact Run.views_fail _
  | some handle =>
    refine (Run.views_ofExcept _).bind fun changed => ?_
    exact (views_changeHandle i _).bind fun _ => Run.views_pure _

section

variable (h : Driver.ViewsAs view driver seen)

include h

/-! ### Connections -/

theorem views_load : Run.Views (through view) (load driver) (load seen) := by
  unfold load
  refine (views_read fun _ => rfl).bind fun isLoaded => ?_
  cases isLoaded with
  | true => exact Run.views_pure ()
  | false =>
    refine (views_read fun session => h.isInstalled session.driver).bind fun isInstalled => ?_
    cases isInstalled with
    | true => exact views_change fun _ => rfl
    | false => exact Run.views_fail _

theorem views_acquire : Run.Views (through view) (acquire driver adapter) (acquire seen adapter) := by
  unfold acquire
  refine (Run.views_ofExcept _).bind fun _ => (views_load h).bind fun _ => ?_
  refine (Run.views_ofExcept _).bind fun settings => (Run.views_ofExcept _).bind fun message => ?_
  refine (views_record _).bind fun _ => (views_onDriver (h.connect settings)).bind fun _ => ?_
  refine (views_read fun _ => rfl).bind fun i => ?_
  exact Run.Views.bind (views_change fun _ => rfl) fun _ => Run.views_pure i

theorem views_destroy (i : Nat) : Run.Views (through view) (destroy driver i) (destroy seen i) := by
  unfold destroy
  refine (views_onDriver (h.close i)).attempt.bind fun outcome => ?_
  refine (views_changeHandle i _).bind fun _ => ?_
  cases outcome with
  | ok u => exact Run.views_pure ()
  | error e =>
    cases hfailure : e.isFailure with
    | true =>
      simp only [hfailure, if_true]
      exact (views_changeHandle i _).bind fun _ => views_record _
    | false =>
      simp only [hfailure]
      exact Run.views_fail e

/-! ### Statements -/

theorem views_timed (statement : Statement) {work : Run (Session τ) α} {seenWork : Run (Session δ) α}
    (hwork : Run.Views (through view) work seenWork) :
    Run.Views (through view) (timed driver adapter statement work)
      (timed seen adapter statement seenWork) := by
  unfold timed
  refine (views_onDriver h.now).bind fun start => ?_
  refine hwork.attempt.bind fun outcome => ?_
  refine (views_onDriver h.now).bind fun finish => ?_
  refine (Run.views_ofExcept _).bind fun entry => ?_
  exact (views_record _).bind fun _ => Run.views_ofExcept outcome

theorem views_execute (i : Nat) (statement : Statement) (options : List (Value × Value)) :
    Run.Views (through view) (execute driver i statement options)
      (execute seen i statement options) :=
  (views_onDriver (h.execute i _ _ _)).bind fun _ => views_onDriver (h.rows i)

theorem views_conclude (i : Nat) (outcome : Except Error (List Value)) :
    Run.Views (through view) (conclude driver i outcome) (conclude seen i outcome) := by
  cases outcome with
  | ok rows => exact (views_onDriver (h.rowCount i)).bind fun _ => Run.views_pure _
  | error e =>
    cases hlost : losesConnection e with
    | false =>
      rw [conclude_kept hlost, conclude_kept hlost]
      exact Run.views_fail e
    | true =>
      rw [conclude_lost hlost, conclude_lost hlost]
      exact (views_emit i _ _).bind fun _ => Run.views_fail e

theorem views_send (i : Nat) (statement : Statement) :
    Run.Views (through view) (send driver adapter (some i) statement)
      (send seen adapter (some i) statement) := by
  rw [send_eq, send_eq]
  refine (Run.views_ofExcept _).bind fun _ => ?_
  cases statement.sql.isTrue with
  | false => exact Run.views_pure none
  | true =>
    refine (views_load h).bind fun _ => (Run.views_ofExcept _).bind fun _ => ?_
    refine (views_onDriver (h.openCursor i)).bind fun _ => (Run.views_ofExcept _).bind fun options => ?_
    exact (views_timed h statement (views_execute h i statement options)).attempt.bind (views_conclude h i)

theorem views_runStatement (i : Nat) (statement : Statement) :
    Run.Views (through view) (runStatement driver adapter (some i) statement)
      (runStatement seen adapter (some i) statement) := by
  unfold runStatement
  refine (views_send h i statement).bind fun response => ?_
  cases response with
  | none => exact Run.views_pure _
  | some response => exact Run.views_ofExcept _

theorem views_runMember (i : Nat) (request : Request) :
    Run.Views (through view) (runMember driver adapter (some i) request)
      (runMember seen adapter (some i) request) := by
  cases request with
  | nothing => exact views_runStatement h i _
  | statement statement => exact views_runStatement h i statement
  | many requests | malformed => exact (Run.views_ofExcept _).bind fun _ => Run.views_fail _

theorem views_run (i : Nat) (request : Request) :
    Run.Views (through view) (run driver adapter (some i) request) (run seen adapter (some i) request) := by
  unfold run
  cases request with
  | nothing | malformed => exact Run.views_fail _
  | statement statement => exact views_runStatement h i statement
  | many requests =>
    exact (Run.views_mapM (views_runMember h i) requests).bind fun _ => Run.views_pure _

end

end Session

end SqlBuilder
