import SqlBuilder.Proofs.Recorded.Outcome
import SqlBuilder.Proofs.Session.Booked

/-!
What is said to a driver while one statement is sent. Main statement: sending a statement ends in one of a
few ways, and how it ended tells what was said, in which order, and which error was reported to the
connection.
-/

namespace SqlBuilder

open Recorded (FailsOnly failsOnly_ok failsOnly_error except_bind_eq_ok)

/-! ### Times that can be told -/

/-- Errors in telling a time are none of a driver's. -/
theorem Seconds.failsOnly_ofValue (value : Value) :
    FailsOnly (Session.losesConnection · = false) (Seconds.ofValue value) := by
  unfold Seconds.ofValue
  split
  · exact failsOnly_ok _
  · exact failsOnly_ok _
  · exact failsOnly_ok _
  · exact failsOnly_error rfl

theorem Seconds.failsOnly_toReal (seconds : Seconds) :
    FailsOnly (Session.losesConnection · = false) seconds.toReal := by
  cases seconds with
  | real x => exact failsOnly_ok x
  | whole n =>
    simp only [Seconds.toReal, Seconds.toValue, Value.toReal, Value.integral?]
    refine FailsOnly.bind (failsOnly_ok n) fun n => ?_
    cases Binary64.ofInt? n with
    | none => exact failsOnly_error rfl
    | some x => exact failsOnly_ok x

theorem Seconds.failsOnly_span (start finish : Seconds) :
    FailsOnly (Session.losesConnection · = false) (Seconds.span start finish) := by
  unfold Seconds.span
  split
  · exact failsOnly_ok _
  · exact (failsOnly_toReal finish).bind fun x => (failsOnly_toReal start).bind fun y => failsOnly_ok _

theorem LogEntry.failsOnly_timed (name : String) (sql params threshold start finish : Value) :
    FailsOnly (Session.losesConnection · = false)
      (LogEntry.timed name sql params threshold start finish) := by
  unfold LogEntry.timed
  refine (Seconds.failsOnly_ofValue start).bind fun start => ?_
  refine (Seconds.failsOnly_ofValue finish).bind fun finish => ?_
  refine (Seconds.failsOnly_span start finish).bind fun elapsed => ?_
  refine (Seconds.failsOnly_ofValue threshold).bind fun threshold => ?_
  exact (Seconds.failsOnly_toReal _).bind fun x => failsOnly_ok _

/-- The time between two readings of the clock can be told, whatever it is told of. -/
def Adapter.TellsTime (adapter : Adapter) (start finish : Value) : Prop :=
  ∀ name sql params, ∃ entry,
    LogEntry.timed name sql params (.int adapter.slowQueryMs) start finish = .ok entry

/-- Whether a time can be told does not depend on what it is told of. -/
theorem Adapter.tellsTime_of_timed {adapter : Adapter} {name : String} {sql params start finish : Value}
    {entry : LogEntry}
    (h : LogEntry.timed name sql params (.int adapter.slowQueryMs) start finish = .ok entry) :
    adapter.TellsTime start finish := by
  intro name' sql' params'
  obtain ⟨start', hstart, h⟩ := except_bind_eq_ok.mp h
  obtain ⟨finish', hfinish, h⟩ := except_bind_eq_ok.mp h
  obtain ⟨elapsed, helapsed, h⟩ := except_bind_eq_ok.mp h
  obtain ⟨threshold, hthreshold, h⟩ := except_bind_eq_ok.mp h
  obtain ⟨real, hreal, -⟩ := except_bind_eq_ok.mp h
  unfold LogEntry.timed
  rw [hstart, hfinish]
  simp only [bind, Except.bind] at hreal ⊢
  rw [helapsed]
  simp only [hthreshold, hreal]
  exact ⟨_, rfl⟩

/-- Numbers with a fraction are never too large to be told. -/
theorem Adapter.tellsTime_real (adapter : Adapter) (x y : Binary64) :
    adapter.TellsTime (.float x) (.float y) :=
  fun _ _ _ => ⟨_, rfl⟩

/-- Reading the clock does not fail, whatever it shows. -/
def Driver.ReadsClock {δ : Type} (driver : Driver δ) : Prop :=
  ∀ d, ∃ reading, (driver.now d).1 = .ok reading

def Driver.Shows {δ : Type} (driver : Driver δ) (reading : Value) : Prop :=
  ∃ d, (driver.now d).1 = .ok reading

/-- The bindings as a driver is handed them. -/
def Statement.bindings? (statement : Statement) : Option (List Value) :=
  if statement.bindings.isEmpty then none else some statement.bindings

namespace Session

open Connection (Handle)
open Driver (Book Entry)

variable {δ α β : Type} {driver : Driver δ} {adapter : Adapter} {session : Session (Book δ)} {i : Nat}

/-! ### Accounts of a computation -/

/-- What a computation adds to the book, and the error it reports to the listeners of a connection. -/
structure Account where
  said : List Entry := []
  read : List (Except Error Value) := []
  reported : Option Error := none

/-- Nothing more is done once an error was reported. -/
instance : Append Account where
  append first second :=
    { said := first.said ++ second.said, read := first.read ++ second.read, reported := second.reported }

theorem Account.append_def (first second : Account) :
    first ++ second =
      { said := first.said ++ second.said, read := first.read ++ second.read, reported := second.reported } :=
  rfl

theorem Account.append_assoc (first second third : Account) :
    first ++ second ++ third = first ++ (second ++ third) := by
  simp [Account.append_def]

/-- The account of what lies between two sessions. -/
structure Says (i : Nat) (account : Account) (before after : Session (Book δ)) : Prop where
  entries : after.driver.entries = before.driver.entries ++ account.said
  readings : after.driver.readings = before.driver.readings ++ account.read
  handles : after.handles =
    account.reported.elim before.handles fun e => before.handles.modify i (·.hear e)

theorem Says.append {first second : Account} {before middle after : Session (Book δ)}
    (hfirst : Says i first before middle) (hquiet : first.reported = none)
    (hsecond : Says i second middle after) : Says i (first ++ second) before after := by
  have hhandles : middle.handles = before.handles := by
    rw [hfirst.handles, hquiet]
    rfl
  constructor
  · rw [hsecond.entries, hfirst.entries, List.append_assoc]
    rfl
  · rw [hsecond.readings, hfirst.readings, List.append_assoc]
    rfl
  · rw [hsecond.handles, hhandles]
    rfl

/-- A computation ends with an account and an outcome that go together so. -/
def Tells (i : Nat) (session : Session (Book δ)) (x : Run (Session (Book δ)) α)
    (P : Account → Except Error α → Prop) : Prop :=
  ∃ account, P account (x session).1 ∧ Says i account session (x session).2

variable {P Q : Account → Except Error α → Prop}

theorem Tells.imp {x : Run (Session (Book δ)) α} (hx : Tells i session x P)
    (h : ∀ account outcome, P account outcome → Q account outcome) : Tells i session x Q := by
  obtain ⟨account, hP, haccount⟩ := hx
  exact ⟨account, h account _ hP, haccount⟩

/-- Of a sequence, the first part's account comes first, and is all there is if that part fails. -/
theorem Tells.bind {x : Run (Session (Book δ)) α} {f : α → Run (Session (Book δ)) β}
    {Q : Account → Except Error β → Prop} (hx : Tells i session x P)
    (herror : ∀ account e, P account (.error e) → Q account (.error e))
    (hok : ∀ account a after, P account (.ok a) → account.reported = none ∧
      (after.handles = session.handles →
        Tells i after (f a) fun rest outcome => Q (account ++ rest) outcome)) :
    Tells i session (x >>= f) Q := by
  obtain ⟨account, hP, haccount⟩ := hx
  -- What succeeds has reported nothing, so the second part starts with the same connections.
  cases h : x session with
  | mk outcome after =>
    rw [h] at hP haccount
    cases outcome with
    | ok a =>
      obtain ⟨hquiet, hrest⟩ := hok account a after hP
      have hhandles : after.handles = session.handles := by
        rw [haccount.handles, hquiet]
        rfl
      obtain ⟨rest, hQ, haccountRest⟩ := hrest hhandles
      rw [Tells, Run.bind_ok h]
      exact ⟨account ++ rest, hQ, haccount.append hquiet haccountRest⟩
    | error e =>
      rw [Tells, Run.bind_error h]
      exact ⟨account, herror account e hP, haccount⟩

/-- What the book tells of a run, and what the run comes to without the book. -/
theorem Tells.of_booked {session : Session δ} {request : Request} {P : Account → Except Error Result → Prop}
    (h : Tells i session.withBook (run driver.booked adapter (some i) request) P) :
    ∃ account, P account (run driver adapter (some i) request session).1 ∧
      (bookedRun driver adapter i request session).2.driver.entries = account.said ∧
      (bookedRun driver adapter i request session).2.driver.readings = account.read ∧
      (run driver adapter (some i) request session).2.handles =
        account.reported.elim session.handles fun e => session.handles.modify i (·.hear e) := by
  obtain ⟨account, hP, haccount⟩ := h
  rw [run_eq_bookedRun]
  exact ⟨account, hP, haccount.entries, haccount.readings, haccount.handles⟩

theorem Tells.attempt {x : Run (Session (Book δ)) α} (hx : Tells i session x P) :
    Tells i session (Run.attempt x) fun account outcome =>
      ∃ worked, outcome = .ok worked ∧ P account worked := by
  obtain ⟨account, hP, haccount⟩ := hx
  exact ⟨account, ⟨_, rfl, hP⟩, haccount⟩

theorem tells_silent {x : Run (Session (Book δ)) α} {outcome : Except Error α}
    {after : Session (Book δ)} (hx : x session = (outcome, after)) (hdriver : after.driver = session.driver)
    (hhandles : after.handles = session.handles) (hP : P {} outcome) : Tells i session x P := by
  refine ⟨{}, by rwa [hx], ?_⟩
  constructor
  · simp [hx, hdriver]
  · simp [hx, hdriver]
  · simp [hx, hhandles]

/-- What is decided by the request alone leaves nothing in the account. -/
theorem Tells.ofExcept_bind {x : Except Error α} {f : α → Run (Session (Book δ)) β}
    {Q : Account → Except Error β → Prop} (herror : ∀ e, x = .error e → Q {} (.error e))
    (hok : ∀ a, x = .ok a → Tells i session (f a) Q) :
    Tells i session ((liftM x : Run (Session (Book δ)) α) >>= f) Q := by
  cases x with
  | ok a => exact hok a rfl
  | error e => exact tells_silent rfl rfl rfl (herror e rfl)

theorem tells_onDriver (x : Run δ α) (entries : Except Error α → List Entry)
    (readings : Except Error α → List (Except Error Value)) :
    Tells i session (onDriver (Driver.noting x entries readings)) fun account outcome =>
      account = { said := entries outcome, read := readings outcome } ∧
        outcome = (x session.driver.driver).1 :=
  ⟨_, ⟨rfl, rfl⟩, rfl, rfl, rfl⟩

/-! ### Stages of an exchange -/

/-- The work on an open cursor: rows are fetched of what was executed. -/
inductive Works (i : Nat) (statement : Statement) (options : List (Value × Value)) :
    List Entry → Except Error (List Value) → Prop where
  | unexecuted (e : Error) :
      Works i statement options [.executed i statement.sql statement.bindings? options (.error e)] (.error e)
  | fetched (reply : Except Error (List Value)) :
      Works i statement options
        [.executed i statement.sql statement.bindings? options (.ok ()), .fetched i reply] reply

theorem tells_execute (statement : Statement) (options : List (Value × Value)) :
    Tells i session (execute driver.booked i statement options) fun account outcome =>
      ∃ said, account = { said } ∧ Works i statement options said outcome := by
  unfold execute
  refine (tells_onDriver _ _ _).bind ?_ ?_
  · rintro _ e ⟨rfl, -⟩
    exact ⟨_, rfl, .unexecuted e⟩
  · rintro _ ⟨⟩ after ⟨rfl, -⟩
    refine ⟨rfl, fun _ => (tells_onDriver _ _ _).imp ?_⟩
    rintro _ reply ⟨rfl, -⟩
    exact ⟨_, rfl, .fetched reply⟩

theorem tells_load :
    Tells i session (load driver.booked) fun account outcome =>
      account = {} ∧ (outcome = .ok () ∨ outcome = .error .driverMissing) := by
  have hread (f : Session (Book δ) → Bool) (session : Session (Book δ)) :
      Tells i session (Run.read f) fun account outcome => account = {} ∧ ∃ b, outcome = .ok b :=
    tells_silent rfl rfl rfl ⟨rfl, _, rfl⟩
  unfold load
  refine (hread _ _).bind ?_ ?_
  · rintro _ e ⟨-, b, h⟩
    cases h
  rintro _ isLoaded after ⟨rfl, -⟩
  refine ⟨rfl, fun _ => ?_⟩
  cases isLoaded with
  | true => exact tells_silent rfl rfl rfl ⟨rfl, .inl rfl⟩
  | false =>
    refine (hread _ _).bind ?_ ?_
    · rintro _ e ⟨-, b, h⟩
      cases h
    rintro _ isInstalled after ⟨rfl, -⟩
    refine ⟨rfl, fun _ => ?_⟩
    cases isInstalled with
    | true => exact tells_silent rfl rfl rfl ⟨rfl, .inl rfl⟩
    | false => exact tells_silent rfl rfl rfl ⟨rfl, .inr rfl⟩

/-- The clock is read before and after the work. What the work ended in is the outcome if the time between
can be told, and else it is lost. -/
inductive Times (driver : Driver δ) (adapter : Adapter) (worked : Except Error α) :
    List (Except Error Value) → Except Error α → Prop where
  | told {start finish : Value} : adapter.TellsTime start finish →
      Times driver adapter worked [.ok start, .ok finish] worked
  | untold {start finish : Value} {e : Error} : driver.Shows start → driver.Shows finish →
      ¬ adapter.TellsTime start finish → losesConnection e = false →
      Times driver adapter worked [.ok start, .ok finish] (.error e)

theorem tells_now (hclock : driver.ReadsClock) (session : Session (Book δ)) :
    Tells i session (onDriver driver.booked.now) fun account outcome =>
      ∃ reading, driver.Shows reading ∧ account = { read := [.ok reading] } ∧ outcome = .ok reading := by
  obtain ⟨reading, hreading⟩ := hclock session.driver.driver
  refine (tells_onDriver _ _ _).imp ?_
  rintro _ outcome ⟨rfl, houtcome⟩
  rw [hreading] at houtcome
  subst houtcome
  exact ⟨reading, ⟨_, hreading⟩, rfl, rfl⟩

theorem tells_timed (hclock : driver.ReadsClock) (statement : Statement) (options : List (Value × Value)) :
    Tells i session (timed driver.booked adapter statement (execute driver.booked i statement options))
      fun account outcome => ∃ said read worked, account = { said, read } ∧
        Works i statement options said worked ∧ Times driver adapter worked read outcome := by
  unfold timed
  refine (tells_now hclock session).bind ?_ ?_
  · rintro _ e ⟨reading, -, -, h⟩
    cases h
  rintro _ start after ⟨_, hstart, rfl, ⟨⟩⟩
  refine ⟨rfl, fun _ => (tells_execute statement options).attempt.bind ?_ ?_⟩
  · rintro _ e ⟨worked, h, -⟩
    cases h
  rintro _ worked after ⟨_, ⟨⟩, said, rfl, hworks⟩
  refine ⟨rfl, fun _ => (tells_now hclock after).bind ?_ ?_⟩
  · rintro _ e ⟨reading, -, -, h⟩
    cases h
  rintro _ finish after ⟨_, hfinish, rfl, ⟨⟩⟩
  refine ⟨rfl, fun _ => Tells.ofExcept_bind ?_ ?_⟩
  · intro e hentry
    refine ⟨said, [.ok start, .ok finish], worked, by simp [Account.append_def], hworks,
      .untold hstart hfinish ?_ ?_⟩
    · intro htells
      obtain ⟨entry, htold⟩ := htells "snowflake.execute" statement.sql
        (.list (Redaction.values statement.bindings))
      rw [htold] at hentry
      cases hentry
    · exact LogEntry.failsOnly_timed _ _ _ _ _ _ e hentry
  · intro entry hentry
    have htells : adapter.TellsTime start finish := Adapter.tellsTime_of_timed hentry
    refine tells_silent rfl rfl rfl ?_
    exact ⟨said, [.ok start, .ok finish], worked, by simp [Account.append_def], hworks, .told htells⟩

/-- The error as it is reported, if it is one to report. -/
def reported? (e : Error) : Option Error :=
  if losesConnection e then some e else none

theorem tells_conclude_error (hi : i < session.handles.length) (e : Error) :
    Tells i session (conclude driver.booked i (.error e)) fun account outcome =>
      account = { reported := reported? e } ∧ outcome = .error e := by
  cases hlost : losesConnection e with
  | false =>
    have hreported : reported? e = none := by simp [reported?, hlost]
    rw [conclude_kept hlost, hreported]
    exact tells_silent rfl rfl rfl ⟨rfl, rfl⟩
  | true =>
    have hreported : reported? e = some e := by simp [reported?, hlost]
    have hhandle : session.handles[i]? = some session.handles[i] := List.getElem?_eq_getElem hi
    rw [conclude_lost hlost, hreported, Tells, Run.bind_ok (emit_error hhandle e)]
    refine ⟨_, ⟨rfl, rfl⟩, ?_⟩
    constructor
    · exact (List.append_nil _).symm
    · exact (List.append_nil _).symm
    · rfl

theorem tells_conclude_ok (rows : List Value) :
    Tells i session (conclude driver.booked i (.ok rows)) fun account outcome =>
      ∃ reply, account = { said := [.counted i reply] } ∧
        outcome = reply.map fun rowCount => some { rows, rowCount } := by
  refine (tells_onDriver _ _ _).bind ?_ ?_
  · rintro _ e ⟨rfl, -⟩
    exact ⟨_, rfl, rfl⟩
  · rintro _ rowCount after ⟨rfl, -⟩
    exact ⟨rfl, fun _ => tells_silent rfl rfl rfl ⟨.ok rowCount, by simp [Account.append_def], rfl⟩⟩

/-! ### The whole of an exchange -/

/-- A statement is sent if it is not empty and has a binding for each of its placeholders. -/
def Sendable (statement : Statement) : Prop :=
  statement.sql.isTrue = true ∧ Placeholder.check statement.sql statement.bindings = .ok ()

/-- What was said by the time the work on a statement is over. -/
inductive WorksOn (driver : Driver δ) (adapter : Adapter) (i : Nat) (statement : Statement)
    (account : Account) (worked outcome : Except Error (List Value)) : Prop where
  | work {options : List (Value × Value)} {said : List Entry} {read : List (Except Error Value)} :
      Sendable statement → optionsOf statement = .ok options → Works i statement options said worked →
      Times driver adapter worked read outcome → account = { said := .opened i (.ok ()) :: said, read } →
      WorksOn driver adapter i statement account worked outcome

/-- The ways in which sending a statement can end. -/
inductive Exchange (driver : Driver δ) (adapter : Adapter) (i : Nat) (statement : Statement) :
    Account → Except Error (Option Response) → Prop where
  | driverless {e : Error} : adapter.requireDriver = .error e →
      Exchange driver adapter i statement {} (.error e)
  | empty : statement.sql.isTrue = false → Exchange driver adapter i statement {} (.ok none)
  | driverMissing : statement.sql.isTrue = true →
      Exchange driver adapter i statement {} (.error .driverMissing)
  | miscounted {e : Error} : statement.sql.isTrue = true →
      Placeholder.check statement.sql statement.bindings = .error e →
      Exchange driver adapter i statement {} (.error e)
  | unopened {e : Error} : Sendable statement →
      Exchange driver adapter i statement { said := [.opened i (.error e)] } (.error e)
  | unsettled {e : Error} : Sendable statement → optionsOf statement = .error e →
      Exchange driver adapter i statement { said := [.opened i (.ok ())] } (.error e)
  | failed {account : Account} {worked : Except Error (List Value)} {e : Error} :
      WorksOn driver adapter i statement account worked (.error e) →
      Exchange driver adapter i statement (account ++ { reported := reported? e }) (.error e)
  | counted {account : Account} {worked : Except Error (List Value)} {rows : List Value}
      {reply : Except Error Value} : WorksOn driver adapter i statement account worked (.ok rows) →
      Exchange driver adapter i statement (account ++ { said := [.counted i reply] })
        (reply.map fun rowCount => some { rows, rowCount })

theorem tells_send (hclock : driver.ReadsClock) (hi : i < session.handles.length) (statement : Statement) :
    Tells i session (send driver.booked adapter (some i) statement)
      (Exchange driver adapter i statement) := by
  rw [send_eq]
  -- Each stage ends the exchange in a way of its own or hands the connections on as they are.
  refine Tells.ofExcept_bind (fun e he => .driverless he) fun _ _ => ?_
  cases hsql : statement.sql.isTrue with
  | false => exact tells_silent rfl rfl rfl (.empty hsql)
  | true =>
    refine tells_load.bind ?_ ?_
    · rintro _ e ⟨rfl, h | h⟩
      · cases h
      · cases h
        exact .driverMissing hsql
    rintro _ _ after ⟨rfl, -⟩
    refine ⟨rfl, fun hloaded => Tells.ofExcept_bind (fun e he => .miscounted hsql he) fun _ hcheck => ?_⟩
    refine (tells_onDriver _ _ _).bind ?_ ?_
    · rintro _ e ⟨rfl, -⟩
      exact .unopened ⟨hsql, hcheck⟩
    rintro _ ⟨⟩ opened ⟨rfl, -⟩
    refine ⟨rfl, fun hopened => Tells.ofExcept_bind (fun e he => .unsettled ⟨hsql, hcheck⟩ he) ?_⟩
    intro options hoptions
    refine (tells_timed hclock statement options).attempt.bind ?_ ?_
    · rintro _ e ⟨_, h, -⟩
      cases h
    rintro _ outcome worked ⟨_, ⟨⟩, said, read, reply, rfl, hworks, htimes⟩
    refine ⟨rfl, fun hworked => ?_⟩
    have hwork : WorksOn driver adapter i statement { said := .opened i (.ok ()) :: said, read } reply
        outcome :=
      .work ⟨hsql, hcheck⟩ hoptions hworks htimes rfl
    have hi : i < worked.handles.length := by rwa [hworked, hopened, hloaded]
    cases outcome with
    | ok rows =>
      refine (tells_conclude_ok rows).imp ?_
      rintro _ _ ⟨reply, rfl, rfl⟩
      exact .counted hwork
    | error e =>
      refine (tells_conclude_error hi e).imp ?_
      rintro _ _ ⟨rfl, rfl⟩
      exact .failed hwork

end Session

end SqlBuilder
