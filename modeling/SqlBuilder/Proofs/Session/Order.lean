import SqlBuilder.Driver.Scripted
import SqlBuilder.Proofs.Session.Exchange

/-!
Lists of statements run over a connection. Main statement: each is executed once, in the order of the list
and with what belongs to it, until one fails; each result is made of the response to its own statement.
-/

namespace SqlBuilder

namespace Driver

/-- What was handed to a driver to be executed. -/
structure Execution where
  connection : Nat
  sql : Value
  bindings : Option (List Value)
  options : List (Value × Value)

def Entry.execution? : Entry → Option Execution
  | .executed connection sql bindings options _ => some { connection, sql, bindings, options }
  | _ => none

/-- The clock does not fail, and what it shows is a number with a fraction. -/
def ReadsReals {δ : Type} (driver : Driver δ) : Prop :=
  ∀ d, ∃ x, (driver.now d).1 = .ok (.float x)

theorem ReadsReals.readsClock {δ : Type} {driver : Driver δ} (h : driver.ReadsReals) : driver.ReadsClock := by
  intro d
  obtain ⟨x, hx⟩ := h d
  exact ⟨_, hx⟩

theorem ReadsReals.tellsTime {δ : Type} {driver : Driver δ} (h : driver.ReadsReals) (adapter : Adapter)
    {start finish : Value} (hstart : driver.Shows start) (hfinish : driver.Shows finish) :
    adapter.TellsTime start finish := by
  obtain ⟨d, hd⟩ := hstart
  obtain ⟨d', hd'⟩ := hfinish
  obtain ⟨x, hx⟩ := h d
  obtain ⟨y, hy⟩ := h d'
  obtain rfl := Except.ok.inj (hd.symm.trans hx)
  obtain rfl := Except.ok.inj (hd'.symm.trans hy)
  exact adapter.tellsTime_real x y

end Driver

/-- What is executed for a request, if it is a statement that is not empty. -/
def Request.execution? (i : Nat) : Request → Option Driver.Execution
  | .statement sent =>
    if sent.sql.isTrue then
      some {
        connection := i
        sql := sent.sql
        bindings := sent.bindings?
        options := (Session.optionsOf sent).toOption.getD [] }
    else none
  | _ => none

namespace Session

open Driver (Book Entry)

variable {δ : Type} {driver : Driver δ} {adapter : Adapter} {session : Session (Book δ)} {i : Nat}

/-! ### One request -/

/-- All that is said of a statement that is answered. -/
def exchanged (i : Nat) (statement : Statement) (options : List (Value × Value)) (response : Response) :
    List Entry :=
  [.opened i (.ok ()), .executed i statement.sql statement.bindings? options (.ok ()),
    .fetched i (.ok response.rows), .counted i (.ok response.rowCount)]

/-- A request with its result. Nothing is said of an empty one. -/
inductive Answers (i : Nat) : Request → Result → List Entry → Prop where
  | nothing : Answers i .nothing (.value .null) []
  | empty {statement : Statement} : statement.sql.isTrue = false →
      Answers i (.statement statement) (.value .null) []
  | sent {statement : Statement} {options : List (Value × Value)} {response : Response} {result : Result} :
      Sendable statement → optionsOf statement = .ok options → statement.result response = .ok result →
      Answers i (.statement statement) result (exchanged i statement options response)

/-- A request with the error that it fails with. Whatever is said ends with the driver's failure, if it is
the driver that fails. -/
inductive Fails (i : Nat) : Request → Error → List Entry → Prop where
  | collection {requests : List Request} : Fails i (.many requests) .noAttribute []
  | malformed : Fails i .malformed .noAttribute []
  | driverMissing {statement : Statement} : statement.sql.isTrue = true →
      Fails i (.statement statement) .driverMissing []
  | miscounted {statement : Statement} {e : Error} : statement.sql.isTrue = true →
      Placeholder.check statement.sql statement.bindings = .error e → Fails i (.statement statement) e []
  | unopened {statement : Statement} {e : Error} : Sendable statement →
      Fails i (.statement statement) e [.opened i (.error e)]
  | unsettled {statement : Statement} {e : Error} : Sendable statement → optionsOf statement = .error e →
      Fails i (.statement statement) e [.opened i (.ok ())]
  | unworked {statement : Statement} {options : List (Value × Value)} {said : List Entry} {e : Error} :
      Sendable statement → optionsOf statement = .ok options →
      Works i statement options said (.error e) →
      Fails i (.statement statement) e (.opened i (.ok ()) :: said)
  | uncounted {statement : Statement} {options : List (Value × Value)} {said : List Entry}
      {rows : List Value} {e : Error} : Sendable statement → optionsOf statement = .ok options →
      Works i statement options said (.ok rows) →
      Fails i (.statement statement) e (.opened i (.ok ()) :: (said ++ [.counted i (.error e)]))
  | unprocessed {statement : Statement} {options : List (Value × Value)} {response : Response} {e : Error} :
      Sendable statement → optionsOf statement = .ok options → statement.result response = .error e →
      Fails i (.statement statement) e (exchanged i statement options response)

/-- How a request ends, with the account of it. -/
inductive Settles (i : Nat) (request : Request) (account : Account) : Except Error Result → Prop where
  | answered {result : Result} : Answers i request result account.said → account.reported = none →
      Settles i request account (.ok result)
  | failed {e : Error} : Fails i request e account.said → Settles i request account (.error e)

theorem WorksOn.worked_eq {statement : Statement} {account : Account}
    {worked outcome : Except Error (List Value)} (hclock : driver.ReadsReals)
    (h : WorksOn driver adapter i statement account worked outcome) :
    ∃ options said, Sendable statement ∧ optionsOf statement = .ok options ∧
      Works i statement options said outcome ∧ account.said = .opened i (.ok ()) :: said ∧
      account.reported = none := by
  obtain ⟨hsendable, hoptions, hworks, htimes, rfl⟩ := h
  cases htimes with
  | told => exact ⟨_, _, hsendable, hoptions, hworks, rfl, rfl⟩
  | untold hstart hfinish huntold => exact absurd (hclock.tellsTime adapter hstart hfinish) huntold

theorem Exchange.fails {statement : Statement} {account : Account}
    {outcome : Except Error (Option Response)} {e : Error} (hclock : driver.ReadsReals)
    (hadapter : adapter.requireDriver = .ok ()) (h : Exchange driver adapter i statement account outcome)
    (hfailed : outcome = .error e) : Fails i (.statement statement) e account.said := by
  cases h with
  | driverless hrefused =>
    rw [hadapter] at hrefused
    cases hrefused
  | empty => cases hfailed
  | driverMissing hsql =>
    cases hfailed
    exact .driverMissing hsql
  | miscounted hsql hcheck =>
    cases hfailed
    exact .miscounted hsql hcheck
  | unopened hsendable =>
    cases hfailed
    exact .unopened hsendable
  | unsettled hsendable hoptions =>
    cases hfailed
    exact .unsettled hsendable hoptions
  | failed hwork =>
    cases hfailed
    obtain ⟨options, said, hsendable, hoptions, hworks, hsaid, -⟩ := hwork.worked_eq hclock
    rw [Account.append_def, hsaid, List.append_nil]
    exact .unworked hsendable hoptions hworks
  | counted hwork =>
    rename_i reply
    obtain ⟨options, said, hsendable, hoptions, hworks, hsaid, -⟩ := hwork.worked_eq hclock
    cases reply with
    | ok rowCount => cases hfailed
    | error e =>
      cases hfailed
      rw [Account.append_def, hsaid]
      exact .uncounted hsendable hoptions hworks

theorem Exchange.responds {statement : Statement} {account : Account}
    {outcome : Except Error (Option Response)} {response : Option Response} (hclock : driver.ReadsReals)
    (h : Exchange driver adapter i statement account outcome) (hdone : outcome = .ok response) :
    account.reported = none ∧ match response with
      | none => statement.sql.isTrue = false ∧ account.said = []
      | some response => Sendable statement ∧ ∃ options, optionsOf statement = .ok options ∧
          account.said = exchanged i statement options response := by
  cases h with
  | empty hsql =>
    cases hdone
    exact ⟨rfl, hsql, rfl⟩
  | driverless | driverMissing | miscounted | unopened | unsettled | failed => cases hdone
  | counted hwork =>
    rename_i reply
    obtain ⟨options, said, hsendable, hoptions, hworks, hsaid, hquiet⟩ := hwork.worked_eq hclock
    cases reply with
    | error e => cases hdone
    | ok rowCount =>
      cases hdone
      cases hworks
      refine ⟨rfl, hsendable, options, hoptions, ?_⟩
      rw [Account.append_def, hsaid]
      rfl

theorem settles_runStatement (hclock : driver.ReadsReals) (hadapter : adapter.requireDriver = .ok ())
    (hi : i < session.handles.length) (statement : Statement) :
    Tells i session (runStatement driver.booked adapter (some i) statement)
      (Settles i (.statement statement)) := by
  unfold runStatement
  refine (tells_send hclock.readsClock hi statement).bind ?_ ?_
  · intro account e hexchange
    exact .failed (hexchange.fails hclock hadapter rfl)
  · intro account response after hexchange
    have hresponds := hexchange.responds hclock rfl
    refine ⟨hresponds.1, fun _ => ?_⟩
    cases response with
    | none =>
      obtain ⟨-, hsql, hsaid⟩ := hresponds
      refine tells_silent rfl rfl rfl (.answered ?_ rfl)
      rw [Account.append_def, hsaid]
      exact .empty hsql
    | some response =>
      obtain ⟨-, hsendable, options, hoptions, hsaid⟩ := hresponds
      cases hresult : statement.result response with
      | ok result =>
        refine tells_silent (by simp only [hresult]; rfl) rfl rfl (.answered ?_ rfl)
        rw [Account.append_def, hsaid, List.append_nil]
        exact .sent hsendable hoptions hresult
      | error e =>
        refine tells_silent (by simp only [hresult]; rfl) rfl rfl (.failed ?_)
        rw [Account.append_def, hsaid, List.append_nil]
        exact .unprocessed hsendable hoptions hresult

theorem settles_runMember (hclock : driver.ReadsReals) (hadapter : adapter.requireDriver = .ok ())
    (hi : i < session.handles.length) (request : Request) :
    Tells i session (runMember driver.booked adapter (some i) request) (Settles i request) := by
  cases request with
  | nothing =>
    have hnothing : runMember driver.booked adapter (some i) .nothing session =
        (.ok (.value .null), session) := by
      rw [runMember, runStatement, send_eq, hadapter]
      rfl
    exact tells_silent hnothing rfl rfl (.answered .nothing rfl)
  | statement statement => exact settles_runStatement hclock hadapter hi statement
  | many requests =>
    exact Tells.ofExcept_bind (fun e he => nomatch hadapter.symm.trans he) fun _ _ =>
      tells_silent rfl rfl rfl (.failed .collection)
  | malformed =>
    exact Tells.ofExcept_bind (fun e he => nomatch hadapter.symm.trans he) fun _ _ =>
      tells_silent rfl rfl rfl (.failed .malformed)

/-! ### Lists of requests -/

/-- Requests with their results, each in its place, and all that is said of them. -/
inductive AnswersEach (i : Nat) : List Request → List Result → List Entry → Prop where
  | nil : AnswersEach i [] [] []
  | cons {request : Request} {requests : List Request} {result : Result} {results : List Result}
      {first rest : List Entry} : Answers i request result first → AnswersEach i requests results rest →
      AnswersEach i (request :: requests) (result :: results) (first ++ rest)

/-- How a list of requests ends: with all of them answered, or with the first that fails and nothing said of
those after it. -/
inductive SettlesEach (i : Nat) (requests : List Request) (account : Account) :
    Except Error (List Result) → Prop where
  | answered {results : List Result} : AnswersEach i requests results account.said →
      account.reported = none → SettlesEach i requests account (.ok results)
  | failed {before after : List Request} {request : Request} {results : List Result} {e : Error}
      {first last : List Entry} : requests = before ++ request :: after → account.said = first ++ last →
      AnswersEach i before results first → Fails i request e last →
      SettlesEach i requests account (.error e)

theorem SettlesEach.cons {request : Request} {requests : List Request} {result : Result}
    {account rest : Account} {outcome : Except Error (List Result)}
    (hrequest : Answers i request result account.said) (h : SettlesEach i requests rest outcome) :
    SettlesEach i (request :: requests) (account ++ rest) (outcome.map (result :: ·)) := by
  cases h with
  | answered hanswers hquiet => exact .answered (.cons hrequest hanswers) hquiet
  | failed hrequests hsaid hanswers hfails =>
    refine .failed (congrArg (request :: ·) hrequests) ?_ (.cons hrequest hanswers) hfails
    rw [Account.append_def, hsaid, List.append_assoc]

theorem settles_runMembers (hclock : driver.ReadsReals) (hadapter : adapter.requireDriver = .ok ())
    (hi : i < session.handles.length) (requests : List Request) :
    Tells i session (requests.mapM (runMember driver.booked adapter (some i))) (SettlesEach i requests) := by
  -- The session is general: the rest is run in the one that the first request leaves.
  induction requests generalizing session with
  | nil => exact tells_silent rfl rfl rfl (.answered .nil rfl)
  | cons request requests ih =>
    rw [List.mapM_cons]
    refine (settles_runMember hclock hadapter hi request).bind ?_ ?_
    · rintro account e (_ | hfails)
      have hfirst : request :: requests = [] ++ request :: requests := (List.nil_append _).symm
      exact .failed hfirst (List.nil_append _).symm .nil hfails
    · rintro account result after (⟨hanswers, hquiet⟩ | _)
      refine ⟨hquiet, fun hhandles => (ih (hhandles ▸ hi)).bind ?_ ?_⟩
      · intro rest e hrest
        exact hrest.cons hanswers
      · rintro rest results _ (⟨hrest, hquiet⟩ | _)
        have hsettles : SettlesEach i requests (rest ++ {}) (.ok results) := by
          refine .answered ?_ rfl
          rw [Account.append_def, List.append_nil]
          exact hrest
        exact ⟨hquiet, fun _ => tells_silent rfl rfl rfl (hsettles.cons hanswers)⟩

/-! ### Executions -/

theorem Works.executions {statement : Statement} {options : List (Value × Value)} {said : List Entry}
    {worked : Except Error (List Value)} (h : Works i statement options said worked) :
    said.filterMap Entry.execution? = [⟨i, statement.sql, statement.bindings?, options⟩] := by
  cases h <;> rfl

theorem execution?_of_sendable {statement : Statement} {options : List (Value × Value)}
    (h : Sendable statement) (hoptions : optionsOf statement = .ok options) :
    (Request.statement statement).execution? i = some ⟨i, statement.sql, statement.bindings?, options⟩ := by
  simp [Request.execution?, h.1, hoptions, Except.toOption]

theorem Answers.executions {request : Request} {result : Result} {said : List Entry}
    (h : Answers i request result said) :
    said.filterMap Entry.execution? = (request.execution? i).toList := by
  cases h with
  | nothing => rfl
  | empty hsql => simp [Request.execution?, hsql]
  | sent hsendable hoptions =>
    rw [execution?_of_sendable hsendable hoptions]
    rfl

theorem AnswersEach.executions {requests : List Request} {results : List Result} {said : List Entry}
    (h : AnswersEach i requests results said) :
    said.filterMap Entry.execution? = requests.filterMap (Request.execution? i) := by
  induction h with
  | nil => rfl
  | cons hrequest _ ih =>
    rw [List.filterMap_append, hrequest.executions, ih, List.filterMap_cons]
    cases Request.execution? i _ <;> rfl

/-- A request that fails is executed at most once. -/
theorem Fails.executions {request : Request} {e : Error} {said : List Entry} (h : Fails i request e said) :
    said.filterMap Entry.execution? <+: (request.execution? i).toList := by
  cases h with
  | collection | malformed | driverMissing | miscounted | unopened | unsettled => exact List.nil_prefix
  | unworked hsendable hoptions hworks =>
    rw [execution?_of_sendable hsendable hoptions, List.filterMap_cons_none rfl, hworks.executions]
    exact List.prefix_rfl
  | uncounted hsendable hoptions hworks =>
    rw [execution?_of_sendable hsendable hoptions, List.filterMap_cons_none rfl, List.filterMap_append,
      hworks.executions]
    exact List.prefix_rfl
  | unprocessed hsendable hoptions =>
    rw [execution?_of_sendable hsendable hoptions]
    exact List.prefix_rfl

/-- Nothing is said of a statement that fails for the number of its bindings. -/
theorem Fails.said_of_not_sendable {statement : Statement} {e : Error} {said : List Entry}
    (h : Fails i (.statement statement) e said) (hrefused : ¬ Sendable statement) : said = [] := by
  cases h with
  | driverMissing | miscounted => rfl
  | unopened hsendable => exact absurd hsendable hrefused
  | unsettled hsendable | unworked hsendable | uncounted hsendable | unprocessed hsendable =>
    exact absurd hsendable hrefused

/-! ### Runs in order -/

/-- What is said while requests are run in their order, and what the run ends in. -/
inductive InOrder (i : Nat) (requests : List Request) (said : List Entry) : Except Error Result → Prop where
  | answered {results : List Result} : AnswersEach i requests results said →
      said.filterMap Entry.execution? = requests.filterMap (Request.execution? i) →
      InOrder i requests said (.ok (.many results))
  | failed {before after : List Request} {request : Request} {results : List Result} {e : Error}
      {first last : List Entry} : requests = before ++ request :: after → said = first ++ last →
      AnswersEach i before results first →
      first.filterMap Entry.execution? = before.filterMap (Request.execution? i) →
      Fails i request e last → last.filterMap Entry.execution? <+: (request.execution? i).toList →
      (∀ statement, request = .statement statement → ¬ Sendable statement → last = []) →
      InOrder i requests said (.error e)

theorem SettlesEach.inOrder {requests : List Request} {account : Account}
    {outcome : Except Error (List Result)} (h : SettlesEach i requests account outcome) :
    InOrder i requests account.said (outcome.map .many) := by
  cases h with
  | answered hanswers => exact .answered hanswers hanswers.executions
  | failed hrequests hsaid hanswers hfails =>
    refine .failed hrequests hsaid hanswers hanswers.executions hfails hfails.executions ?_
    rintro statement rfl hrefused
    exact hfails.said_of_not_sendable hrefused

/-- Requests are run over a connection one after another: each statement that is not empty is executed once,
with its own bindings and options, and each result is made of the response to its own statement; after the
first that fails, with whatever error, nothing more is said to the driver. -/
theorem run_inOrder {session : Session δ} (hclock : driver.ReadsReals)
    (hadapter : adapter.requireDriver = .ok ()) (hi : i < session.handles.length) (requests : List Request) :
    InOrder i requests (bookedRun driver adapter i (.many requests) session).2.driver.entries
      (run driver adapter (some i) (.many requests) session).1 := by
  have hmembers : Tells i session.withBook (requests.mapM (runMember driver.booked adapter (some i)))
    (SettlesEach i requests) := settles_runMembers hclock hadapter hi requests
  have hrun : Tells i session.withBook (run driver.booked adapter (some i) (.many requests))
      fun account outcome => InOrder i requests account.said outcome := by
    refine hmembers.bind ?_ ?_
    · intro account e hsettles
      exact hsettles.inOrder
    · rintro account results after (⟨hanswers, hquiet⟩ | _)
      refine ⟨hquiet, fun _ => tells_silent rfl rfl rfl ?_⟩
      rw [Account.append_def, List.append_nil]
      exact .answered hanswers hanswers.executions
  obtain ⟨account, horder, hentries, -⟩ := hrun.of_booked
  rw [hentries]
  exact horder

/-- The clock stands still. -/
def stillDriver : Driver Driver.Scripted :=
  { Driver.Scripted.driver with now := pure (.float (.finite false 1 (-1))) }

/-- The third statement lacks a binding. -/
def mixedRequests : List Request :=
  [.statement { sql := .text "select ?", bindings := [.int 1] }, .nothing,
    .statement { sql := .text "select ?" }, .sql "select 2"]

theorem mixedRequests_inOrder :
    let adapter : Adapter := { dialect := .snowflake true none, slowQueryMs := 1000, config := {} }
    let session : Session Driver.Scripted := { driver := {}, isLoaded := true, handles := [.fresh []] }
    let said := (bookedRun stillDriver adapter 0 (.many mixedRequests) session).2.driver.entries
    let ended := run stillDriver adapter (some 0) (.many mixedRequests) session
    stillDriver.ReadsReals ∧ adapter.requireDriver = .ok () ∧ 0 < session.handles.length ∧
      InOrder 0 mixedRequests said ended.1 ∧
      said.filterMap Entry.execution? = [⟨0, .text "select ?", some [.int 1], []⟩] ∧
      ended.1 = .error (.parameterCount 1 0) := by
  intro adapter session said ended
  have hclock : stillDriver.ReadsReals := fun _ => ⟨_, rfl⟩
  have hi : 0 < session.handles.length := Nat.one_pos
  exact ⟨hclock, rfl, hi, run_inOrder hclock rfl hi mixedRequests, rfl, rfl⟩

end Session

end SqlBuilder
