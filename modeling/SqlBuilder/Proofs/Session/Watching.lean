import SqlBuilder.Proofs.Session.Connecting
import SqlBuilder.Proofs.Session.Loss
import SqlBuilder.Proofs.Session.Order
import SqlBuilder.Proofs.Sql.Placeholder
import SqlBuilder.Proofs.Sql.Text

/-!
Sessions that are watched: the calls of the driver, and the requests that are run, each with how it ended.
Main statement: if nothing but the driver can make the statements of a request fail, then the calls made for
it all succeed until one fails, which is the last, and what that one raises is what the request fails with.
-/

namespace SqlBuilder

variable {δ α β : Type}

/-! ### What is seen -/

namespace Driver

inductive Call where
  | connect (settings : List (Value × Value))
  | openCursor (i : Nat)
  | execute (i : Nat) (sql : Value) (bindings : Option (List Value)) (options : List (Value × Value))
  | rows (i : Nat)
  | rowCount (i : Nat)
  | close (i : Nat)

/-- The call is made to send a statement over a connection. -/
def Call.SendsOver (i : Nat) : Call → Prop
  | .openCursor j => j = i
  | .execute j _ _ _ => j = i
  | .rows j => j = i
  | .rowCount j => j = i
  | .connect _ => False
  | .close _ => False

end Driver

namespace Session

inductive Event where
  | called (call : Driver.Call) (failure : Option Error)
  | asked (request : Request) (outcome : Except Error Result)

/-- A driver's state with all that was seen so far. -/
structure Watched (δ : Type) where
  driver : δ
  events : List Event := []

end Session

/-- The same session, of which nothing was seen yet. -/
def Session.watched (session : Session δ) : Session (Session.Watched δ) where
  driver := { driver := session.driver }
  isLoaded := session.isLoaded
  handles := session.handles
  notes := session.notes

namespace Driver

open Session (Watched)

def watching (call : Call) (x : Run δ α) : Run (Watched δ) α := fun watched =>
  ((x watched.driver).1, {
    driver := (x watched.driver).2
    events := watched.events ++ [.called call (failure? (x watched.driver).1)] })

/-- Looking for the driver and reading the clock are no calls of it. -/
def watched (driver : Driver δ) : Driver (Watched δ) where
  isInstalled watched := driver.isInstalled watched.driver
  connect settings := watching (.connect settings) (driver.connect settings)
  openCursor i := watching (.openCursor i) (driver.openCursor i)
  execute i sql bindings options :=
    watching (.execute i sql bindings options) (driver.execute i sql bindings options)
  rows i := watching (.rows i) (driver.rows i)
  rowCount i := watching (.rowCount i) (driver.rowCount i)
  close i := watching (.close i) (driver.close i)
  now := Run.within (·.driver) (fun driver watched => { watched with driver }) driver.now

/-- Each call does what it does when nobody watches. -/
theorem watched_viewsAs (driver : Driver δ) : ViewsAs Watched.driver driver.watched driver where
  isInstalled _ := rfl
  connect _ _ := rfl
  openCursor _ _ := rfl
  execute _ _ _ _ _ := rfl
  rows _ _ := rfl
  rowCount _ _ := rfl
  close _ _ := rfl
  now _ := rfl

end Driver

/-- What a computation fails with is no interrupt. -/
def Run.Uninterrupted {σ : Type} (x : Run σ α) : Prop :=
  ∀ s e, (x s).1 = .error e → e.isFailure = true

/-- Each call over a connection succeeds or fails with what a handler can deal with. -/
structure Driver.Uninterrupted (driver : Driver δ) : Prop where
  openCursor : ∀ i, (driver.openCursor i).Uninterrupted
  execute : ∀ i sql bindings options, (driver.execute i sql bindings options).Uninterrupted
  rows : ∀ i, (driver.rows i).Uninterrupted
  rowCount : ∀ i, (driver.rowCount i).Uninterrupted
  close : ∀ i, (driver.close i).Uninterrupted

namespace Session

/-! ### Statements that only the driver can make fail -/

/-- A statement that is sent, and whose response can be processed whatever it is. -/
structure HangsOnDriver (statement : Statement) : Prop where
  sendable : Sendable statement
  options : ∃ options, optionsOf statement = .ok options
  result : ∀ response, ∃ result, statement.result response = .ok result

theorem hangsOnDriver_text {text : String} {bindings : List Value} {method : Method} (htext : text ≠ "")
    (hcount : Placeholder.count text = bindings.length) (hmethod : method ≠ .pluck) :
    HangsOnDriver { sql := .text text, bindings, method } := by
  have hsql : (Value.text text).isTrue = true := by simpa [Value.isTrue] using htext
  refine ⟨⟨hsql, Placeholder.check_text hcount⟩, ⟨[], rfl⟩, fun response => ?_⟩
  cases method with
  | pluck => exact absurd rfl hmethod
  | raw | schema | select | first | insert | update | delete | truncate | other => exact ⟨_, rfl⟩

/-- The text of the pieces need not be put together to see that it can be sent. -/
theorem hangsOnDriver_ofSql {sql : Sql} {method : Method} (hsql : ∃ piece ∈ sql, piece.text ≠ "")
    (hcount : Placeholder.countFrom none (sql.flatMap fun piece => piece.text.toList) = sql.bindings.length)
    (hmethod : method ≠ .pluck) : HangsOnDriver (Statement.ofSql sql method) := by
  refine hangsOnDriver_text (fun hempty => ?_) ?_ hmethod
  · obtain ⟨piece, hpiece, htext⟩ := hsql
    have hpieces : sql.flatMap (fun piece => piece.text.toList) = [] := by
      rw [← Sql.toList_text, hempty]
      rfl
    exact htext (String.toList_eq_nil_iff.mp (List.flatMap_eq_nil_iff.mp hpieces piece hpiece))
  · rw [Placeholder.count, Sql.toList_text]
    exact hcount

/-! ### Calls and their failures -/

/-- Calls over a connection that all succeed, or the last of which raises what they come to. -/
inductive Blamed (i : Nat) : List Event → Option Error → Prop where
  | nil : Blamed i [] none
  | failed {call : Driver.Call} {e : Error} : call.SendsOver i → e.isFailure = true →
      Blamed i [.called call (some e)] (some e)
  | cons {call : Driver.Call} {events : List Event} {failure : Option Error} : call.SendsOver i →
      Blamed i events failure → Blamed i (.called call none :: events) failure

/-- The driver is loaded and the connection was made. -/
def Ready (i : Nat) (session : Session δ) : Prop :=
  session.isLoaded = true ∧ i < session.handles.length

/-- Where the connection stands, the calls of a computation are to blame for its failure. -/
def Blames (i : Nat) (x : Run (Session (Watched δ)) α) : Prop :=
  ∀ session, session.Ready i → ∃ events, Blamed i events (failure? (x session).1) ∧
    (x session).2.driver.events = session.driver.events ++ events ∧ (x session).2.Ready i

/-- Where the connection stands, a computation ends in this way without a call. -/
def Silently (i : Nat) (outcome : Except Error α) (x : Run (Session (Watched δ)) α) : Prop :=
  ∀ session, session.Ready i → ∃ after, x session = (outcome, after) ∧
    after.driver.events = session.driver.events ∧ after.Ready i

variable {driver : Driver δ} {adapter : Adapter} {i : Nat}

theorem Blamed.append {events more : List Event} {failure first : Option Error} (h : Blamed i events first)
    (hfirst : first = none) (hmore : Blamed i more failure) : Blamed i (events ++ more) failure := by
  induction h with
  | nil => exact hmore
  | failed => cases hfirst
  | cons hcall _ ih => exact .cons hcall (ih hfirst)

theorem blamed_singleton {call : Driver.Call} {failure : Option Error} (hcall : call.SendsOver i)
    (hfailure : ∀ e, failure = some e → e.isFailure = true) :
    Blamed i [.called call failure] failure := by
  cases failure with
  | none => exact .cons hcall .nil
  | some e => exact .failed hcall (hfailure e rfl)

theorem Blamed.isFailure {events : List Event} {failure : Option Error} {e : Error}
    (h : Blamed i events failure) (hfailure : failure = some e) : e.isFailure = true := by
  induction h with
  | nil => cases hfailure
  | failed _ he =>
    cases hfailure
    exact he
  | cons _ _ ih => exact ih hfailure

theorem Silently.blames {a : α} {x : Run (Session (Watched δ)) α} (h : Silently i (.ok a) x) :
    Blames i x := by
  intro session hready
  obtain ⟨after, hx, hevents, hafter⟩ := h session hready
  rw [hx]
  exact ⟨[], .nil, by rw [hevents, List.append_nil], hafter⟩

theorem silently_ofExcept (outcome : Except Error α) :
    Silently i outcome (Run.ofExcept outcome : Run (Session (Watched δ)) α) :=
  fun session hready => ⟨session, rfl, rfl, hready⟩

theorem blames_pure (a : α) : Blames i (pure a : Run (Session (Watched δ)) α) :=
  (silently_ofExcept (.ok a)).blames

theorem Silently.bind {a : α} {outcome : Except Error β} {x : Run (Session (Watched δ)) α}
    {f : α → Run (Session (Watched δ)) β} (hx : Silently i (.ok a) x) (hf : Silently i outcome (f a)) :
    Silently i outcome (x >>= f) := by
  intro session hready
  obtain ⟨after, hfirst, hevents, hafter⟩ := hx session hready
  obtain ⟨last, hsecond, hevents', hlast⟩ := hf after hafter
  exact ⟨last, (Run.bind_ok hfirst).trans hsecond, hevents'.trans hevents, hlast⟩

/-- What follows a silent computation is to blame for the failure of both. -/
theorem Silently.bind_blames {a : α} {x : Run (Session (Watched δ)) α}
    {f : α → Run (Session (Watched δ)) β} (hx : Silently i (.ok a) x) (hf : Blames i (f a)) :
    Blames i (x >>= f) := by
  intro session hready
  obtain ⟨after, hfirst, hevents, hafter⟩ := hx session hready
  rw [Run.bind_ok hfirst, ← hevents]
  exact hf after hafter

theorem Blames.bind {x : Run (Session (Watched δ)) α} {f : α → Run (Session (Watched δ)) β}
    (hx : Blames i x) (hf : ∀ a, Blames i (f a)) : Blames i (x >>= f) := by
  intro session hready
  obtain ⟨events, hblamed, hevents, hafter⟩ := hx session hready
  cases hfirst : x session with
  | mk outcome after =>
    rw [hfirst] at hblamed hevents hafter
    cases outcome with
    | error e =>
      rw [Run.bind_error hfirst]
      exact ⟨events, hblamed, hevents, hafter⟩
    | ok a =>
      obtain ⟨more, hmore, hevents', hlast⟩ := hf a after hafter
      rw [Run.bind_ok hfirst]
      exact ⟨events ++ more, hblamed.append rfl hmore,
        by rw [hevents', hevents, List.append_assoc], hlast⟩

/-- An error that is looked at and then passed on is still the one that was raised. -/
theorem Blames.attempt_bind {x : Run (Session (Watched δ)) α}
    {f : Except Error α → Run (Session (Watched δ)) β} (hx : Blames i x)
    (hok : ∀ a, Blames i (f (.ok a))) (herror : ∀ e, Silently i (.error e) (f (.error e))) :
    Blames i (Run.attempt x >>= f) := by
  intro session hready
  obtain ⟨events, hblamed, hevents, hafter⟩ := hx session hready
  cases hfirst : x session with
  | mk outcome after =>
    rw [hfirst] at hblamed hevents hafter
    rw [Run.bind_ok (Run.attempt_eq hfirst)]
    cases outcome with
    | error e =>
      obtain ⟨last, hlast, hevents', hready'⟩ := herror e after hafter
      rw [hlast]
      exact ⟨events, hblamed, hevents'.trans hevents, hready'⟩
    | ok a =>
      obtain ⟨more, hmore, hevents', hlast⟩ := hok a after hafter
      exact ⟨events ++ more, hblamed.append rfl hmore,
        by rw [hevents', hevents, List.append_assoc], hlast⟩

theorem blames_call (call : Driver.Call) {x : Run δ α} (hcall : call.SendsOver i)
    (hx : x.Uninterrupted) : Blames i (onDriver (Driver.watching call x)) := by
  intro session hready
  refine ⟨[.called call (failure? (x session.driver.driver).1)], ?_, rfl, hready⟩
  refine blamed_singleton hcall fun e he => hx session.driver.driver e (eq_error_iff.mpr he)

/-! ### Stages of sending -/

theorem silently_load : Silently i (.ok ()) (load driver.watched) := by
  intro session hready
  have hread : Run.read (·.isLoaded) session = (.ok true, session) := by
    rw [Run.read, hready.1]
  exact ⟨session, Run.bind_ok hread, rfl, hready⟩

theorem silently_fail (e : Error) : Silently i (.error e) (Run.fail e : Run (Session (Watched δ)) α) :=
  silently_ofExcept (.error e)

theorem silently_record (notes : List Note) : Silently (δ := δ) i (.ok ()) (record notes) :=
  fun session hready => ⟨{ session with notes := session.notes ++ notes }, rfl, rfl, hready⟩

theorem silently_ofRecorded {x : Recorded α} {a : α} (h : x.outcome = .ok a) :
    Silently (δ := δ) i (.ok a) (ofRecorded x) := by
  unfold ofRecorded
  rw [h]
  exact (silently_record x.notes).bind (silently_ofExcept (.ok a))

/-- Reporting an error to the connection is no call. -/
theorem silently_conclude (e : Error) : Silently i (.error e) (conclude driver.watched i (.error e)) := by
  cases hlost : losesConnection e with
  | false =>
    rw [conclude_kept hlost]
    exact silently_fail e
  | true =>
    rw [conclude_lost hlost]
    intro session hready
    obtain ⟨handle, hhandle⟩ : ∃ handle, session.handles[i]? = some handle :=
      ⟨_, List.getElem?_eq_getElem hready.2⟩
    refine ⟨_, Run.bind_ok (emit_error hhandle e), rfl, hready.1, ?_⟩
    rw [List.length_modify]
    exact hready.2

theorem now_watched (hclock : driver.ReadsReals) {session : Session (Watched δ)}
    (hready : session.Ready i) :
    ∃ x after, onDriver driver.watched.now session = (.ok (.float x), after) ∧
      after.driver.events = session.driver.events ∧ after.Ready i := by
  obtain ⟨x, hx⟩ := hclock session.driver.driver
  exact ⟨x, _, Prod.ext hx rfl, rfl, hready⟩

/-- Telling how long a piece of work took does not hide what it came to. -/
theorem silently_told (hclock : driver.ReadsReals) (statement : Statement) (x : Binary64)
    (outcome : Except Error α) :
    Silently i outcome (do
      let finish ← onDriver driver.watched.now
      record [.logged (← LogEntry.timed "snowflake.execute" statement.sql
        (.list (Redaction.values statement.bindings)) (.int adapter.slowQueryMs) (.float x) finish)]
      outcome) := by
  intro session hready
  obtain ⟨y, after, hnow, hevents, hafter⟩ := now_watched hclock hready
  obtain ⟨entry, hentry⟩ := adapter.tellsTime_real x y "snowflake.execute" statement.sql
    (.list (Redaction.values statement.bindings))
  rw [Run.bind_ok hnow, hentry, ← hevents]
  have hrecorded : Silently (δ := δ) i outcome (do record [.logged entry]; outcome) :=
    (silently_record _).bind (silently_ofExcept outcome)
  exact hrecorded after hafter

theorem blames_execute (hcalls : driver.Uninterrupted) (statement : Statement)
    (options : List (Value × Value)) : Blames i (execute driver.watched i statement options) :=
  (blames_call (.execute i _ _ _) rfl (hcalls.execute i _ _ _)).bind fun _ =>
    blames_call (.rows i) rfl (hcalls.rows i)

theorem blames_timed (hclock : driver.ReadsReals) (statement : Statement)
    {work : Run (Session (Watched δ)) α} (hwork : Blames i work) :
    Blames i (timed driver.watched adapter statement work) := by
  intro session hready
  obtain ⟨x, after, hnow, hevents, hafter⟩ := now_watched hclock hready
  rw [timed, Run.bind_ok hnow, ← hevents]
  refine hwork.attempt_bind (fun a => ?_) (fun e => ?_) after hafter
  · exact (silently_told hclock statement x (.ok a)).blames
  · exact silently_told hclock statement x (.error e)

theorem blames_conclude (hcalls : driver.Uninterrupted) (rows : List Value) :
    Blames i (conclude driver.watched i (.ok rows)) :=
  (blames_call (.rowCount i) rfl (hcalls.rowCount i)).bind fun _ => blames_pure _

/-! ### Requests -/

section

variable (hcalls : driver.Uninterrupted) (hclock : driver.ReadsReals)
  (hadapter : adapter.requireDriver = .ok ())

include hcalls hclock hadapter

theorem blames_send {statement : Statement} (h : HangsOnDriver statement) :
    Blames i (send driver.watched adapter (some i) statement) := by
  obtain ⟨⟨hsql, hcheck⟩, ⟨options, hoptions⟩, -⟩ := h
  rw [send_eq, hadapter, hcheck, hoptions]
  refine (silently_ofExcept (.ok ())).bind_blames ?_
  simp only [hsql]
  refine silently_load.bind_blames ((silently_ofExcept (.ok ())).bind_blames ?_)
  refine (blames_call (.openCursor i) rfl (hcalls.openCursor i)).bind fun _ => ?_
  refine (silently_ofExcept (.ok options)).bind_blames ?_
  exact (blames_timed hclock statement (blames_execute hcalls statement options)).attempt_bind
    (blames_conclude hcalls) silently_conclude

theorem blames_runStatement {statement : Statement} (h : HangsOnDriver statement) :
    Blames i (runStatement driver.watched adapter (some i) statement) := by
  unfold runStatement
  refine (blames_send hcalls hclock hadapter h).bind fun response => ?_
  cases response with
  | none => exact blames_pure _
  | some response =>
    obtain ⟨result, hresult⟩ := h.result response
    simp only [hresult]
    exact (silently_ofExcept (.ok result)).blames

theorem blames_runMembers {statements : List Statement}
    (h : ∀ statement ∈ statements, HangsOnDriver statement) :
    Blames i ((statements.map Request.statement).mapM (runMember driver.watched adapter (some i))) := by
  induction statements with
  | nil => exact blames_pure []
  | cons statement statements ih =>
    obtain ⟨hstatement, hrest⟩ := List.forall_mem_cons.mp h
    rw [List.map_cons, List.mapM_cons]
    refine (blames_runStatement hcalls hclock hadapter hstatement).bind fun result => ?_
    exact (ih hrest).bind fun results => blames_pure _

/-- What a run of these statements fails with is what the last call made for it raised. -/
theorem blames_runMany {statements : List Statement}
    (h : ∀ statement ∈ statements, HangsOnDriver statement) :
    Blames i (run driver.watched adapter (some i) (.many (statements.map .statement))) :=
  (blames_runMembers hcalls hclock hadapter h).bind fun _ => blames_pure _

end

/-! ### Connections -/

theorem load_spec (driver : Driver δ) (session : Session δ) :
    (∃ e, load driver session = (.error e, session)) ∨
      load driver session = (.ok (), { session with isLoaded := true }) := by
  have hread : Run.read (·.isLoaded) session = (.ok session.isLoaded, session) := rfl
  rw [load, Run.bind_ok hread]
  cases hloaded : session.isLoaded with
  | true =>
    have hsame : { session with isLoaded := true } = session := by rw [← hloaded]
    rw [hsame]
    exact .inr rfl
  | false =>
    have hlook : Run.read (fun session => driver.isInstalled session.driver) session =
        (.ok (driver.isInstalled session.driver), session) := rfl
    simp only [Bool.not_false, if_true]
    rw [Run.bind_ok hlook]
    cases driver.isInstalled session.driver with
    | true => exact .inr rfl
    | false => exact .inl ⟨_, rfl⟩

/-- How making a connection ends, and what is seen of it. -/
inductive Acquired (session : Session (Watched δ)) : Except Error Nat → Session (Watched δ) → Prop where
  | unprepared {e : Error} {after : Session (Watched δ)} :
      after.driver.events = session.driver.events → Acquired session (.error e) after
  | unconnected {settings : List (Value × Value)} {e : Error} {after : Session (Watched δ)} :
      after.driver.events = session.driver.events ++ [.called (.connect settings) (some e)] →
      Acquired session (.error e) after
  | connected {settings : List (Value × Value)} {i : Nat} {after : Session (Watched δ)} :
      i = session.handles.length →
      after.driver.events = session.driver.events ++ [.called (.connect settings) none] →
      after.Ready i → Acquired session (.ok i) after

theorem acquired_connectWith (settings : List (Value × Value)) {session started : Session (Watched δ)}
    (hloaded : started.isLoaded = true) (hhandles : started.handles = session.handles)
    (hevents : started.driver.events = session.driver.events) :
    Acquired session (connectWith driver.watched settings started).1
      (connectWith driver.watched settings started).2 := by
  cases hconnect : driver.connect settings started.driver.driver with
  | mk outcome d =>
    have hcall : onDriver (driver.watched.connect settings) started = (outcome, { started with driver := {
        driver := d
        events := started.driver.events ++ [.called (.connect settings) (failure? outcome)] } }) := by
      simp [onDriver, Run.within, Driver.watched, Driver.watching, hconnect]
    cases outcome with
    | error e =>
      rw [connectWith, Run.bind_error hcall]
      exact .unconnected (by rw [← hevents]; rfl)
    | ok u =>
      have hlength : started.handles.length <
          (started.handles ++ [Connection.Handle.fresh settings]).length := by
        rw [List.length_append]
        exact Nat.lt_succ_self _
      rw [connectWith, Run.bind_ok hcall]
      exact .connected (congrArg List.length hhandles) (by rw [← hevents]; rfl) ⟨hloaded, hlength⟩

theorem acquired (driver : Driver δ) (adapter : Adapter) (session : Session (Watched δ)) :
    Acquired session (acquire driver.watched adapter session).1
      (acquire driver.watched adapter session).2 := by
  unfold acquire
  cases adapter.requireDriver with
  | error e => exact .unprepared rfl
  | ok u =>
    have hrequired : (liftM (Except.ok u : Except Error Unit) : Run (Session (Watched δ)) Unit) session =
      (.ok u, session) := rfl
    rw [Run.bind_ok hrequired]
    rcases load_spec driver.watched session with ⟨e, hload⟩ | hload
    · rw [Run.bind_error hload]
      exact .unprepared rfl
    · rw [Run.bind_ok hload]
      cases adapter.config.driverSettings with
      | error e => exact .unprepared rfl
      | ok settings =>
        cases connectingMessage adapter.config with
        | error e => exact .unprepared rfl
        | ok message => exact acquired_connectWith settings rfl rfl rfl

theorem destroy_watched (hcalls : driver.Uninterrupted) (i : Nat) (session : Session (Watched δ)) :
    ∃ failure, (destroy driver.watched i session).1 = .ok () ∧
      (destroy driver.watched i session).2.driver.events =
        session.driver.events ++ [.called (.close i) failure] := by
  cases hclose : driver.close i session.driver.driver with
  | mk outcome d =>
    have hcall : onDriver (driver.watched.close i) session = (outcome, { session with driver := {
        driver := d
        events := session.driver.events ++ [.called (.close i) (failure? outcome)] } }) := by
      simp [onDriver, Run.within, Driver.watched, Driver.watching, hclose]
    rw [destroy, Run.bind_ok (Run.attempt_eq hcall)]
    refine ⟨failure? outcome, ?_⟩
    cases outcome with
    | ok u => exact ⟨rfl, rfl⟩
    | error e =>
      have hfailure : e.isFailure = true := hcalls.close i session.driver.driver e (by rw [hclose])
      simp only [hfailure, if_true]
      exact ⟨rfl, rfl⟩

/-! ### Requests that are noted -/

/-- A request that was run: the calls made for it, and what it came to. -/
structure Step where
  calls : List Event
  request : Request
  outcome : Except Error Result

def Step.events (step : Step) : List Event :=
  step.calls ++ [.asked step.request step.outcome]

/-- Runs a request, and notes afterwards what it came to. -/
def ask (driver : Driver δ) (adapter : Adapter) (i : Nat) (request : Request) :
    Run (Session (Watched δ)) Result := do
  let outcome ← Run.attempt (run driver.watched adapter (some i) request)
  Run.change fun session =>
    { session with driver.events := session.driver.events ++ [.asked request outcome] }
  outcome

/-- Where the connection stands, a computation is made up of steps, each of which fails only by its own last
call, and how they and the computation end is described by `P`. -/
def Takes (i : Nat) (x : Run (Session (Watched δ)) α)
    (P : List (Request × Except Error Result) → Except Error α → Prop) : Prop :=
  ∀ session, session.Ready i → ∃ steps : List Step,
    (∀ step ∈ steps, Blamed i step.calls (failure? step.outcome)) ∧
    (x session).2.driver.events = session.driver.events ++ steps.flatMap Step.events ∧
    (x session).2.Ready i ∧ P (steps.map fun step => (step.request, step.outcome)) (x session).1

variable {P : List (Request × Except Error Result) → Except Error α → Prop}
  {Q : List (Request × Except Error Result) → Except Error β → Prop}

theorem Takes.imp {P' : List (Request × Except Error Result) → Except Error α → Prop}
    {x : Run (Session (Watched δ)) α} (h : Takes i x P)
    (himp : ∀ asked outcome, P asked outcome → P' asked outcome) : Takes i x P' := by
  intro session hready
  obtain ⟨steps, hsteps, hevents, hafter, hP⟩ := h session hready
  exact ⟨steps, hsteps, hevents, hafter, himp _ _ hP⟩

theorem Silently.takes {outcome : Except Error α} {x : Run (Session (Watched δ)) α}
    (h : Silently i outcome x) (hP : P [] outcome) : Takes i x P := by
  intro session hready
  obtain ⟨after, hx, hevents, hafter⟩ := h session hready
  rw [hx]
  exact ⟨[], List.forall_mem_nil _, by rw [hevents, List.flatMap_nil, List.append_nil], hafter, hP⟩

theorem Silently.bind_takes {a : α} {x : Run (Session (Watched δ)) α}
    {f : α → Run (Session (Watched δ)) β} (hx : Silently i (.ok a) x) (hf : Takes i (f a) Q) :
    Takes i (x >>= f) Q := by
  intro session hready
  obtain ⟨after, hfirst, hevents, hafter⟩ := hx session hready
  rw [Run.bind_ok hfirst, ← hevents]
  exact hf after hafter

theorem Takes.bind {x : Run (Session (Watched δ)) α} {f : α → Run (Session (Watched δ)) β}
    (hx : Takes i x P) (hfailed : ∀ asked e, P asked (.error e) → Q asked (.error e))
    (hf : ∀ asked a, P asked (.ok a) → Takes i (f a) fun more outcome => Q (asked ++ more) outcome) :
    Takes i (x >>= f) Q := by
  intro session hready
  obtain ⟨steps, hsteps, hevents, hafter, hP⟩ := hx session hready
  cases hfirst : x session with
  | mk outcome after =>
    rw [hfirst] at hevents hafter hP
    cases outcome with
    | error e =>
      rw [Run.bind_error hfirst]
      exact ⟨steps, hsteps, hevents, hafter, hfailed _ e hP⟩
    | ok a =>
      obtain ⟨more, hmore, hevents', hlast, hQ⟩ := hf _ a hP after hafter
      rw [Run.bind_ok hfirst]
      refine ⟨steps ++ more, List.forall_mem_append.mpr ⟨hsteps, hmore⟩, ?_, hlast, ?_⟩
      · rw [hevents', hevents, List.flatMap_append, List.append_assoc]
      · rw [List.map_append]
        exact hQ

theorem Takes.attempt {x : Run (Session (Watched δ)) α} (h : Takes i x P) :
    Takes i (Run.attempt x) fun asked attempted =>
      ∃ outcome, attempted = .ok outcome ∧ P asked outcome := by
  intro session hready
  obtain ⟨steps, hsteps, hevents, hafter, hP⟩ := h session hready
  exact ⟨steps, hsteps, hevents, hafter, _, rfl, hP⟩

/-- A request that only the driver can make fail is a step. -/
theorem takes_ask {request : Request} (h : Blames i (run driver.watched adapter (some i) request)) :
    Takes i (ask driver adapter i request) fun asked outcome =>
      asked = [(request, outcome)] ∧ ∀ e, outcome = .error e → e.isFailure = true := by
  intro session hready
  obtain ⟨calls, hblamed, hevents, hafter⟩ := h session hready
  have hasked : ask driver adapter i request session =
      ((run driver.watched adapter (some i) request session).1,
        { (run driver.watched adapter (some i) request session).2 with
          driver.events := session.driver.events ++
            (calls ++ [.asked request (run driver.watched adapter (some i) request session).1]) }) := by
    rw [← List.append_assoc, ← hevents]
    rfl
  rw [hasked]
  refine ⟨[⟨calls, request, _⟩], List.forall_mem_singleton.mpr hblamed, ?_, hafter, rfl, ?_⟩
  · simp [Step.events]
  · exact fun e he => hblamed.isFailure (eq_error_iff.mp he)

/-- Noting requests changes nothing of what is done. -/
theorem views_ask (i : Nat) (request : Request) :
    Run.Views (through Watched.driver) (ask driver adapter i request)
      (run driver adapter (some i) request) :=
  views_run driver.watched_viewsAs i request

end Session

end SqlBuilder
