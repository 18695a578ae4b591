import SqlBuilder.Proofs.Session.Sending

/-!
Sessions from their beginning, whatever is done in them and in whatever order. Main statement: a connection
has its one listener exactly until it is destroyed, and the reason of its disposal changes only by an error
that loses it before that, or by a failure to close it.
-/

namespace SqlBuilder.Session

open Connection (Handle Reaction)

inductive Operation where
  | acquire
  | run (i : Nat) (request : Request)
  | destroy (i : Nat)

variable {δ α : Type} {driver : Driver δ} {adapter : Adapter} {session : Session δ} {i : Nat}

def perform (driver : Driver δ) (adapter : Adapter) : Operation → Run (Session δ) Unit
  | .acquire => do let _ ← acquire driver adapter
  | .run i request => do let _ ← run driver adapter (some i) request
  | .destroy i => destroy driver i

/-- Operations one after another, each with its outcome. One that fails does not keep the next from being
tried. -/
def performEach (driver : Driver δ) (adapter : Adapter) :
    List Operation → Session δ → List (Operation × Except Error Unit) × Session δ
  | [], session => ([], session)
  | operation :: operations, session =>
    let performed := perform driver adapter operation session
    let rest := performEach driver adapter operations performed.2
    ((operation, performed.1) :: rest.1, rest.2)

/-- Which of the connections acquired so far are not destroyed yet. -/
def stand (standing : List Bool) : Operation × Except Error Unit → List Bool
  | (.acquire, .ok ()) => standing ++ [true]
  | (.destroy i, _) => standing.set i false
  | _ => standing

def standing (history : List (Operation × Except Error Unit)) : List Bool :=
  history.foldl stand []

/-! ### Acquiring and destroying -/

/-- All settings are looked at and the driver connects before there is a new connection. -/
def connect (driver : Driver δ) (adapter : Adapter) : Run (Session δ) (List (Value × Value)) := do
  adapter.requireDriver
  load driver
  let settings ← adapter.config.driverSettings
  log .info (← connectingMessage adapter.config)
  onDriver (driver.connect settings)
  return settings

theorem keepsHandles_connect : Run.Keeps Session.handles (connect driver adapter) := by
  unfold connect
  refine (Run.keeps_ofExcept _).bind fun _ => (keeps_load handles_besidesDriver).bind fun _ => ?_
  refine (Run.keeps_ofExcept _).bind fun settings => (Run.keeps_ofExcept _).bind fun message => ?_
  refine Run.Keeps.bind (fun _ => rfl) fun _ => ?_
  exact (keeps_onDriver handles_besidesDriver _).bind fun _ => Run.keeps_pure settings

theorem acquire_eq (driver : Driver δ) (adapter : Adapter) :
    acquire driver adapter = (do
      let settings ← connect driver adapter
      let i ← Run.read (·.handles.length)
      Run.change fun session => { session with handles := session.handles ++ [.fresh settings] }
      return i) := by
  simp only [acquire, connect, bind_assoc, pure_bind]

/-- A connection is added, or none is if that fails. -/
theorem handles_acquire (driver : Driver δ) (adapter : Adapter) (session : Session δ) :
    (∃ e, (perform driver adapter .acquire session).1 = .error e ∧
        (perform driver adapter .acquire session).2.handles = session.handles) ∨
      ∃ settings, (perform driver adapter .acquire session).1 = .ok () ∧
        (perform driver adapter .acquire session).2.handles = session.handles ++ [.fresh settings] := by
  have hperform : perform driver adapter .acquire = (do
      let settings ← connect driver adapter
      Run.change fun session => { session with handles := session.handles ++ [.fresh settings] }) := by
    simp only [perform, acquire_eq, bind_assoc]
    rfl
  have hkept : (connect driver adapter session).2.handles = session.handles := keepsHandles_connect session
  cases hconnect : connect driver adapter session with
  | mk outcome after =>
    rw [hconnect] at hkept
    cases outcome with
    | ok settings =>
      rw [hperform, Run.bind_ok hconnect]
      exact .inr ⟨settings, rfl, congrArg (· ++ [Handle.fresh settings]) hkept⟩
    | error e =>
      rw [hperform, Run.bind_error hconnect]
      exact .inl ⟨e, rfl, hkept⟩

/-- A connection after it was closed with this outcome: no interrupt is a reason of disposal. -/
def closed (outcome : Except Error Unit) (handle : Handle) : Handle :=
  match outcome with
  | .ok () => handle.removeListeners
  | .error e => if e.isFailure then handle.removeListeners.dispose e else handle.removeListeners

theorem listeners_closed (outcome : Except Error Unit) (handle : Handle) :
    (closed outcome handle).listeners = {} := by
  unfold closed
  split
  · rfl
  · split <;> rfl

theorem destroy_spec (driver : Driver δ) (i : Nat) (session : Session δ) :
    (destroy driver i session).2.handles =
        session.handles.modify i (closed (driver.close i session.driver).1) ∧
      ∀ e, (destroy driver i session).1 = .error e → e.isFailure = false := by
  cases hclose : driver.close i session.driver with
  | mk outcome after =>
    have hattempt : Run.attempt (onDriver (driver.close i)) session =
        (.ok outcome, { session with driver := after }) :=
      Run.attempt_eq (by simp [onDriver, Run.within, hclose])
    rw [destroy, Run.bind_ok hattempt]
    cases outcome with
    | ok u => exact ⟨rfl, fun e h => nomatch h⟩
    | error e =>
      cases hfailure : e.isFailure with
      | true =>
        have hclosed : closed (.error e) = (·.dispose e) ∘ Handle.removeListeners := by
          funext handle
          simp [closed, hfailure]
        rw [hclosed, ← List.modify_modify_eq]
        simp only [hfailure, if_true]
        exact ⟨rfl, fun e h => nomatch h⟩
      | false =>
        have hclosed : closed (.error e) = Handle.removeListeners := by
          funext handle
          simp [closed, hfailure]
        rw [hclosed]
        simp only [hfailure]
        exact ⟨rfl, fun e' h => by cases h; exact hfailure⟩

/-! ### Listeners -/

/-- A standing connection has the one listener of a new one, and one that was destroyed has none. -/
def attending (isStanding : Bool) : Listeners Reaction :=
  if isStanding then ({} : Listeners Reaction).on Handle.errorEvent .markDisposed else {}

def Attended (standing : List Bool) (session : Session δ) : Prop :=
  session.handles.map (·.listeners) = standing.map attending

theorem hears_perform_run (driver : Driver δ) (adapter : Adapter) (i : Nat) (request : Request)
    (session : Session δ) :
    Hears (RaisedBySending driver adapter i) i session.handles
      (perform driver adapter (.run i request) session) :=
  (hears_run request).bind fun _ _ => hears_of_keeps (Run.keeps_pure ())

theorem listeners_modify_hear (i : Nat) (e : Error) (handles : List Handle) :
    (handles.modify i (·.hear e)).map (·.listeners) = handles.map (·.listeners) := by
  apply List.ext_getElem?
  intro j
  rw [List.getElem?_map, List.getElem?_modify, List.getElem?_map]
  cases handles[j]? with
  | none => rfl
  | some handle => by_cases hij : i = j <;> simp [hij]

theorem listeners_modify_closed (i : Nat) (outcome : Except Error Unit) (handles : List Handle) :
    (handles.modify i (closed outcome)).map (·.listeners) = (handles.map (·.listeners)).set i {} := by
  apply List.ext_getElem?
  intro j
  rw [List.getElem?_map, List.getElem?_modify, List.getElem?_set', List.getElem?_map]
  cases handles[j]? with
  | none => simp
  | some handle => by_cases hij : i = j <;> simp [hij, listeners_closed]

theorem Attended.perform {alive : List Bool} (h : Attended alive session) (operation : Operation) :
    Attended (stand alive (operation, (perform driver adapter operation session).1))
      (perform driver adapter operation session).2 := by
  cases operation with
  | acquire =>
    rcases handles_acquire driver adapter session with ⟨e, hfailed, hhandles⟩ | ⟨settings, hdone, hhandles⟩
    · rw [hfailed, Attended, hhandles]
      exact h
    · rw [hdone, Attended, hhandles, List.map_append, stand, List.map_append, h]
      rfl
  | run i request =>
    rcases hears_perform_run driver adapter i request session with hkept | ⟨e, -, -, -, hheard⟩
    · rw [Attended, hkept]
      exact h
    · rw [Attended, hheard, listeners_modify_hear]
      exact h
  | destroy i =>
    have hhandles := (destroy_spec driver i session).1
    rw [Attended, Session.perform, hhandles, listeners_modify_closed, h, stand, List.map_set]
    rfl

theorem attended_performEach (history : List (Operation × Except Error Unit)) (operations : List Operation)
    (h : Attended (standing history) session) :
    Attended (standing (history ++ (performEach driver adapter operations session).1))
      (performEach driver adapter operations session).2 := by
  induction operations generalizing history session with
  | nil => simpa [performEach] using h
  | cons operation operations ih =>
    have hstep : Attended (standing (history ++ [(operation, (perform driver adapter operation session).1)]))
        (perform driver adapter operation session).2 := by
      rw [standing, List.foldl_append]
      exact h.perform operation
    have hrest := ih _ hstep
    rw [List.append_assoc] at hrest
    exact hrest

theorem attended_of_performEach {d : δ} {operations : List Operation}
    {history : List (Operation × Except Error Unit)}
    (h : performEach driver adapter operations { driver := d } = (history, session)) :
    Attended (standing history) session := by
  have hreached : Attended (standing ([] ++ (performEach driver adapter operations { driver := d }).1))
    (performEach driver adapter operations { driver := d }).2 := attended_performEach [] operations rfl
  rwa [h] at hreached

/-! ### Disposal -/

/-- What makes an operation that ended so dispose of a connection for an error: a statement sent over it
failed with the error, while it was standing, or it could not be closed. -/
inductive Disposes (driver : Driver δ) (adapter : Adapter) (session : Session δ) (isStanding : Bool)
    (ended : Except Error Unit × Session δ) (i : Nat) : Operation → Error → Prop where
  | lost {request : Request} {e : Error} : isStanding = true → ended.1 = .error e →
      losesConnection e = true → RaisedBySending driver adapter i e ended.2 →
      Disposes driver adapter session isStanding ended i (.run i request) e
  | unclosed {e : Error} : (driver.close i session.driver).1 = .error e → e.isFailure = true →
      Disposes driver adapter session isStanding ended i (.destroy i) e

/-- What holds after a history, and of whatever is done next. -/
structure Orderly (driver : Driver δ) (adapter : Adapter)
    (history : List (Operation × Except Error Unit)) (session : Session δ) (operation : Operation)
    (ended : Except Error Unit × Session δ) : Prop where
  /-- All that is acquired has one listener, for errors, until it is destroyed, and none ever after. -/
  attended : Attended (standing history) session
  /-- No connection goes away, and what it is disposed of for changes for these reasons alone. -/
  disposed : ∀ i before, session.handles[i]? = some before → ∃ isStanding after,
    (standing history)[i]? = some isStanding ∧ ended.2.handles[i]? = some after ∧
      (after.disposed = before.disposed ∨ ∃ e, after.disposed = some e ∧
        Disposes driver adapter session isStanding ended i operation e)
  /-- A run changes no connection unless a statement fails with an error that loses one. -/
  kept : ∀ i request, operation = .run i request →
    (∀ e, ended.1 = .error e → RaisedBySending driver adapter i e ended.2 → losesConnection e = false) →
      ended.2.handles = session.handles
  /-- Nothing but an interrupt comes of a destruction. -/
  destroyed : ∀ i e, operation = .destroy i → ended.1 = .error e → e.isFailure = false

theorem Attended.standing_of_handle {alive : List Bool} {handle : Handle} (h : Attended alive session)
    (hhandle : session.handles[i]? = some handle) :
    ∃ isStanding, alive[i]? = some isStanding ∧ handle.listeners = attending isStanding := by
  have hlisteners : (session.handles.map (·.listeners))[i]? = some handle.listeners := by
    rw [List.getElem?_map, hhandle]
    rfl
  rw [h, List.getElem?_map, Option.map_eq_some_iff] at hlisteners
  obtain ⟨isStanding, hstanding, hattending⟩ := hlisteners
  exact ⟨isStanding, hstanding, hattending.symm⟩

/-- Only a standing connection is disposed of for what it hears. -/
theorem disposed_hear {handle : Handle} {isStanding : Bool} (h : handle.listeners = attending isStanding)
    (e : Error) :
    (handle.hear e).disposed = if isStanding then some e else handle.disposed := by
  have hhears : handle.hears Handle.errorEvent = isStanding := by
    rw [Handle.hears, h]
    cases isStanding <;> rfl
  rw [Handle.hear, hhears]
  cases isStanding <;> rfl

theorem disposed_closed (outcome : Except Error Unit) (handle : Handle) :
    (closed outcome handle).disposed = handle.disposed ∨
      ∃ e, outcome = .error e ∧ e.isFailure = true ∧ (closed outcome handle).disposed = some e := by
  cases outcome with
  | ok u => exact .inl rfl
  | error e =>
    cases hfailure : e.isFailure with
    | false =>
      left
      simp only [closed, hfailure]
      rfl
    | true =>
      right
      refine ⟨e, rfl, hfailure, ?_⟩
      simp only [closed, hfailure]
      rfl

theorem disposed_perform {alive : List Bool} {before : Handle} (h : Attended alive session)
    (operation : Operation) (hbefore : session.handles[i]? = some before) :
    ∃ isStanding after, alive[i]? = some isStanding ∧
      (perform driver adapter operation session).2.handles[i]? = some after ∧
      (after.disposed = before.disposed ∨ ∃ e, after.disposed = some e ∧
        Disposes driver adapter session isStanding (perform driver adapter operation session) i
          operation e) := by
  obtain ⟨isStanding, hstanding, hlisteners⟩ := h.standing_of_handle hbefore
  refine ⟨isStanding, ?_⟩
  cases operation with
  | acquire =>
    refine ⟨before, hstanding, ?_, .inl rfl⟩
    rcases handles_acquire driver adapter session with ⟨e, -, hhandles⟩ | ⟨settings, -, hhandles⟩
    · rw [hhandles, hbefore]
    · rw [hhandles, List.getElem?_append_left (List.getElem?_eq_some_iff.mp hbefore).1, hbefore]
  | run j request =>
    rcases hears_perform_run driver adapter j request session with
      hkept | ⟨e, hfailed, hlost, hraised, hheard⟩
    · exact ⟨before, hstanding, hkept ▸ hbefore, .inl rfl⟩
    · by_cases hij : j = i
      · subst hij
        refine ⟨before.hear e, hstanding, by rw [hheard]; simp [hbefore], ?_⟩
        rw [disposed_hear hlisteners]
        cases isStanding with
        | false => exact .inl rfl
        | true => exact .inr ⟨e, rfl, .lost rfl hfailed hlost hraised⟩
      · exact ⟨before, hstanding, by rw [hheard]; simp [hij, hbefore], .inl rfl⟩
  | destroy j =>
    have hhandles := (destroy_spec driver j session).1
    by_cases hij : j = i
    · subst hij
      refine ⟨closed (driver.close j session.driver).1 before, hstanding, ?_, ?_⟩
      · rw [perform, hhandles]
        simp [hbefore]
      · rcases disposed_closed (driver.close j session.driver).1 before with
          hkept | ⟨e, hfailed, hfailure, hdisposed⟩
        · exact .inl hkept
        · exact .inr ⟨e, hdisposed, .unclosed hfailed hfailure⟩
    · refine ⟨before, hstanding, ?_, .inl rfl⟩
      rw [perform, hhandles]
      simp [hij, hbefore]

/-- Whatever is done in a session from its beginning, on however many connections and with whatever
outcomes: each connection has its listener until it is destroyed and none after that; the reason of its
disposal changes only when a run over it is lost before that, or when closing it fails; and destroying it
fails with nothing but an interrupt. -/
theorem performEach_orderly (driver : Driver δ) (adapter : Adapter) (d : δ) (operations : List Operation)
    (operation : Operation) :
    let (history, session) := performEach driver adapter operations { driver := d }
    Orderly driver adapter history session operation (perform driver adapter operation session) := by
  have hattended : Attended (standing (performEach driver adapter operations { driver := d }).1)
      (performEach driver adapter operations { driver := d }).2 :=
    attended_of_performEach rfl
  refine ⟨hattended, fun i before => disposed_perform hattended operation, ?_, ?_⟩
  · rintro i request rfl hkeeps
    rcases hears_perform_run driver adapter i request _ with
      hkept | ⟨e, hfailed, hlost, hraised, -⟩
    · exact hkept
    · rw [hkeeps e hfailed hraised] at hlost
      cases hlost
  · rintro i e rfl hfailed
    exact (destroy_spec driver i _).2 e hfailed

end SqlBuilder.Session
