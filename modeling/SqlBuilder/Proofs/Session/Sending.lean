import SqlBuilder.Session
import SqlBuilder.Proofs.Run.Sequence

/-!
What sending a statement does to the connections of a session. Main statement: it changes at most the one
that the statement is sent over, and that one only if it fails with an error that loses the connection.
-/

namespace SqlBuilder

namespace Connection.Handle

/-- A connection after an error was reported to whoever listens to it. -/
def hear (e : Error) (handle : Handle) : Handle :=
  if handle.hears errorEvent then handle.dispose e else handle

@[simp] theorem listeners_hear (e : Error) (handle : Handle) :
    (handle.hear e).listeners = handle.listeners := by
  unfold hear
  split <;> rfl

@[simp] theorem react_singleton (e : Error) (handle : Handle) (reaction : Reaction) :
    react [e] handle reaction = .ok (handle.dispose e) := by
  cases reaction
  rfl

theorem foldlM_react (e : Error) (reactions : List Reaction) (handle : Handle) :
    reactions.foldlM (react [e]) handle =
      .ok (if reactions.isEmpty then handle else handle.dispose e) := by
  induction reactions generalizing handle with
  | nil => rfl
  | cons reaction reactions ih =>
    have hrest := ih (handle.dispose e)
    simp only [List.foldlM_cons, react_singleton, bind, Except.bind]
    rw [hrest]
    cases reactions <;> rfl

/-- Listeners take a single error without failing. -/
theorem emit_singleton (event : String) (e : Error) (handle : Handle) :
    handle.emit event [e] = .ok (if handle.hears event then handle.dispose e else handle) := by
  rw [emit, foldlM_react, hears]
  cases (handle.listeners.of event).isEmpty <;> rfl

end Connection.Handle

namespace Session

open Connection (Handle)

variable {δ α : Type} {driver : Driver δ} {adapter : Adapter} {session : Session δ} {i : Nat}

/-! ### Reporting an error -/

theorem emit_error {handle : Handle} (h : session.handles[i]? = some handle) (e : Error) :
    emit i Handle.errorEvent [e] session =
      (.ok (handle.hears Handle.errorEvent),
        { session with handles := session.handles.modify i (·.hear e) }) := by
  have hread : Run.read (·.handles) session = (.ok session.handles, session) := rfl
  have hemit : (liftM (handle.emit Handle.errorEvent [e]) : Run (Session δ) Handle) session =
      (.ok (handle.hear e), session) := by
    rw [Handle.emit_singleton]
    rfl
  have hmodify : session.handles.modify i (fun _ => handle.hear e) =
      session.handles.modify i (·.hear e) := by
    apply List.ext_getElem?
    intro j
    rw [List.getElem?_modify, List.getElem?_modify]
    by_cases hij : i = j
    · subst hij
      simp [h]
    · simp [hij]
  rw [emit, Run.bind_ok hread]
  simp only [h]
  rw [Run.bind_ok hemit, ← hmodify]
  rfl

/-! ### Stages of sending -/

/-- What follows the work on a statement. -/
def conclude (driver : Driver δ) (i : Nat) : Except Error (List Value) → Run (Session δ) (Option Response)
  | .ok rows => do return some { rows, rowCount := ← onDriver (driver.rowCount i) }
  | .error e => do
    if losesConnection e then
      let _ ← emit i Handle.errorEvent [e]
    Run.fail e

theorem send_eq (driver : Driver δ) (adapter : Adapter) (i : Nat) (statement : Statement) :
    send driver adapter (some i) statement = (do
      adapter.requireDriver
      if !statement.sql.isTrue then return none
      load driver
      Placeholder.check statement.sql statement.bindings
      onDriver (driver.openCursor i)
      let options ← optionsOf statement
      let outcome ← Run.attempt (timed driver adapter statement (execute driver i statement options))
      conclude driver i outcome) :=
  rfl

/-- An error that loses the connection is reported before it goes on. -/
theorem conclude_lost {e : Error} (hlost : losesConnection e = true) :
    conclude driver i (.error e) = (do let _ ← emit i Handle.errorEvent [e]; Run.fail e) := by
  simp only [conclude, hlost, if_true]

theorem conclude_kept {e : Error} (hkept : losesConnection e = false) :
    conclude driver i (.error e) = Run.fail e := by
  simp only [conclude, hkept]
  rfl

/-! ### What leaves the connections alone -/

/-- A part of a session that does not hang on its driver. -/
def BesidesDriver {β : Type} (part : Session δ → β) : Prop :=
  ∀ session driver isLoaded, part { session with driver, isLoaded } = part session

theorem handles_besidesDriver : BesidesDriver (δ := δ) Session.handles :=
  fun _ _ _ => rfl

variable {β : Type} {part : Session δ → β}

theorem keeps_onDriver (hpart : BesidesDriver part) (x : Run δ α) : Run.Keeps part (onDriver x) :=
  fun session => hpart session _ session.isLoaded

theorem keeps_load (hpart : BesidesDriver part) : Run.Keeps part (load driver) := by
  unfold load
  refine (Run.keeps_read _).bind fun isLoaded => ?_
  cases isLoaded with
  | true => exact Run.keeps_pure ()
  | false =>
    refine (Run.keeps_read _).bind fun isInstalled => ?_
    cases isInstalled with
    | true => exact fun session => hpart session session.driver true
    | false => exact Run.keeps_fail _

theorem keeps_execute (hpart : BesidesDriver part) (i : Nat) (statement : Statement)
    (options : List (Value × Value)) : Run.Keeps part (execute driver i statement options) :=
  (keeps_onDriver hpart _).bind fun _ => keeps_onDriver hpart _

theorem keepsHandles_timed (statement : Statement) {work : Run (Session δ) α}
    (hwork : Run.Keeps Session.handles work) :
    Run.Keeps Session.handles (timed driver adapter statement work) := by
  unfold timed
  refine (keeps_onDriver handles_besidesDriver _).bind fun start => hwork.attempt.bind fun outcome => ?_
  refine (keeps_onDriver handles_besidesDriver _).bind fun finish => (Run.keeps_ofExcept _).bind fun entry => ?_
  exact Run.Keeps.bind (fun _ => rfl) fun _ => Run.keeps_ofExcept outcome

/-! ### What sending changes -/

/-- The connections are what they were, or an error that loses one, and of which more is known, was
reported to the listeners of this one. -/
def Hears (known : Error → Session δ → Prop) (i : Nat) (before : List Handle)
    (ended : Except Error α × Session δ) : Prop :=
  ended.2.handles = before ∨ ∃ e, ended.1 = .error e ∧ losesConnection e = true ∧ known e ended.2 ∧
    ended.2.handles = before.modify i (·.hear e)

variable {known : Error → Session δ → Prop}

theorem hears_of_keeps {x : Run (Session δ) α} (hx : Run.Keeps Session.handles x) :
    Hears known i session.handles (x session) :=
  .inl (hx session)

/-- Nothing was reported by a part that succeeded. -/
theorem Hears.bind {β : Type} {x : Run (Session δ) β} {f : β → Run (Session δ) α}
    (hx : Hears known i session.handles (x session))
    (hf : ∀ b after, Hears known i after.handles (f b after)) :
    Hears known i session.handles ((x >>= f) session) := by
  cases h : x session with
  | mk outcome after =>
    rw [h] at hx
    cases outcome with
    | ok b =>
      have hkept : after.handles = session.handles := by
        rcases hx with hkept | ⟨e, hfailed, -⟩
        · exact hkept
        · cases hfailed
      rw [Run.bind_ok h, ← hkept]
      exact hf b after
    | error e =>
      rw [Run.bind_error h]
      rcases hx with hkept | ⟨e', hfailed, hlost, hknown, hheard⟩
      · exact .inl hkept
      · cases hfailed
        exact .inr ⟨e, rfl, hlost, hknown, hheard⟩

theorem hears_conclude (outcome : Except Error (List Value)) :
    Hears (fun _ _ => True) i session.handles (conclude driver i outcome session) := by
  cases outcome with
  | ok rows => exact hears_of_keeps ((keeps_onDriver handles_besidesDriver _).bind fun _ => Run.keeps_pure _)
  | error e =>
    cases hlost : losesConnection e with
    | false =>
      rw [conclude_kept hlost]
      exact hears_of_keeps (Run.keeps_fail e)
    | true =>
      rw [conclude_lost hlost]
      cases hhandle : session.handles[i]? with
      | none =>
        have hemit : emit i Handle.errorEvent [e] session = (.error .noAttribute, session) := by
          have hread : Run.read (·.handles) session = (.ok session.handles, session) := rfl
          rw [emit, Run.bind_ok hread]
          simp only [hhandle]
          rfl
        rw [Run.bind_error hemit]
        exact .inl rfl
      | some handle =>
        rw [Run.bind_ok (emit_error hhandle e)]
        exact .inr ⟨e, rfl, hlost, trivial, rfl⟩

theorem hears_send (statement : Statement) :
    Hears (fun _ _ => True) i session.handles (send driver adapter (some i) statement session) := by
  rw [send_eq]
  refine (hears_of_keeps (Run.keeps_ofExcept _)).bind fun _ session => ?_
  cases statement.sql.isTrue with
  | false => exact hears_of_keeps (Run.keeps_pure none)
  | true =>
    refine (hears_of_keeps (keeps_load handles_besidesDriver)).bind fun _ session => ?_
    refine (hears_of_keeps (Run.keeps_ofExcept _)).bind fun _ session => ?_
    refine (hears_of_keeps (keeps_onDriver handles_besidesDriver _)).bind fun _ session => ?_
    refine (hears_of_keeps (Run.keeps_ofExcept _)).bind fun options session => ?_
    have hwork : Run.Keeps Session.handles
        (timed driver adapter statement (execute driver i statement options)) :=
      keepsHandles_timed statement (keeps_execute handles_besidesDriver i statement options)
    exact (hears_of_keeps hwork.attempt).bind fun outcome session => hears_conclude outcome

/-! ### What running changes -/

/-- The session is as it was left by sending a statement over the connection, which failed so. -/
def RaisedBySending (driver : Driver δ) (adapter : Adapter) (i : Nat) (e : Error)
    (after : Session δ) : Prop :=
  ∃ statement before, send driver adapter (some i) statement before = (.error e, after)

theorem hearsRaised_send (statement : Statement) :
    Hears (RaisedBySending driver adapter i) i session.handles
      (send driver adapter (some i) statement session) := by
  have hsent : Hears (fun _ _ => True) i session.handles
    (send driver adapter (some i) statement session) := hears_send statement
  rcases hsent with hkept | ⟨e, hfailed, hlost, -, hheard⟩
  · exact .inl hkept
  · exact .inr ⟨e, hfailed, hlost, ⟨statement, session, by rw [← hfailed]⟩, hheard⟩

theorem hears_runStatement (statement : Statement) :
    Hears (RaisedBySending driver adapter i) i session.handles
      (runStatement driver adapter (some i) statement session) := by
  unfold runStatement
  refine (hearsRaised_send statement).bind fun response session => ?_
  cases response with
  | none => exact hears_of_keeps (Run.keeps_pure _)
  | some response => exact hears_of_keeps (Run.keeps_ofExcept _)

theorem hears_runMember (request : Request) :
    Hears (RaisedBySending driver adapter i) i session.handles
      (runMember driver adapter (some i) request session) := by
  cases request with
  | nothing => exact hears_runStatement _
  | statement statement => exact hears_runStatement statement
  | many requests | malformed =>
    exact (hears_of_keeps (Run.keeps_ofExcept _)).bind fun _ _ => hears_of_keeps (Run.keeps_fail _)

theorem hears_runMembers (requests : List Request) :
    Hears (RaisedBySending driver adapter i) i session.handles
      (requests.mapM (runMember driver adapter (some i)) session) := by
  induction requests generalizing session with
  | nil => exact hears_of_keeps (Run.keeps_pure [])
  | cons request requests ih =>
    rw [List.mapM_cons]
    refine (hears_runMember request).bind fun result session => ?_
    exact ih.bind fun results session => hears_of_keeps (Run.keeps_pure _)

/-- Running anything over a connection changes no other one, and that one only by an error that loses it
and that sending a statement failed with. -/
theorem hears_run (request : Request) :
    Hears (RaisedBySending driver adapter i) i session.handles
      (run driver adapter (some i) request session) := by
  unfold run
  cases request with
  | nothing | malformed => exact hears_of_keeps (Run.keeps_fail _)
  | statement statement => exact hears_runStatement statement
  | many requests => exact (hears_runMembers requests).bind fun _ _ => hears_of_keeps (Run.keeps_pure _)

end Session

end SqlBuilder
