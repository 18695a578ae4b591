import SqlBuilder.Driver.Scripted
import SqlBuilder.Proofs.Session.Exchange
import SqlBuilder.Proofs.Session.History

/-!
Connections that are lost while a statement is sent. Main statement: the error that a driver call raises is
what the run fails with and what the connection is disposed of for exactly if the call was made on the
cursor, and not to open it, and the time it took can be told.
-/

namespace SqlBuilder

/-- The error that a computation ended in. -/
def failure? {α : Type} : Except Error α → Option Error
  | .ok _ => none
  | .error e => some e

theorem eq_error_iff {α : Type} {outcome : Except Error α} {e : Error} :
    outcome = .error e ↔ failure? outcome = some e := by
  cases outcome <;> simp [failure?]

namespace Driver

/-- The error that a driver call failed with. The count of rows is not called for, it is looked up. -/
def Entry.error? : Entry → Option Error
  | .opened _ reply => failure? reply
  | .executed _ _ _ _ reply => failure? reply
  | .fetched _ reply => failure? reply
  | .counted _ _ => none

def Entry.isOpening : Entry → Bool
  | .opened .. => true
  | _ => false

/-- No driver call failed with an error that loses the connection. -/
def Calm (said : List Entry) : Prop :=
  ∀ entry ∈ said, ∀ e, entry.error? = some e → Session.losesConnection e = false

theorem calm_nil : Calm [] :=
  fun _ h => nomatch h

theorem Calm.append {first second : List Entry} (hfirst : Calm first) (hsecond : Calm second) :
    Calm (first ++ second) := by
  intro entry hentry
  rcases List.mem_append.mp hentry with h | h
  · exact hfirst entry h
  · exact hsecond entry h

theorem calm_singleton {entry : Entry} (h : ∀ e, entry.error? = some e → Session.losesConnection e = false) :
    Calm [entry] := by
  intro entry' hentry
  rw [List.mem_singleton.mp hentry]
  exact h

/-- Among calm entries and one more, only that one can lose the connection. -/
theorem Calm.eq_last {earlier : List Entry} {last entry : Entry} {e : Error} (hcalm : Calm earlier)
    (hentry : entry ∈ earlier ++ [last]) (hraised : entry.error? = some e)
    (hlost : Session.losesConnection e = true) : entry = last := by
  rcases List.mem_append.mp hentry with hearlier | hlast
  · rw [hcalm entry hearlier e hraised] at hlost
    cases hlost
  · exact List.mem_singleton.mp hlast

end Driver

namespace Session

open Connection (Handle)
open Driver (Book Entry Calm Scripted calm_nil calm_singleton)

variable {δ α β : Type} {driver : Driver δ} {adapter : Adapter} {session : Session (Book δ)} {i : Nat}

/-! ### Accounts of a loss -/

/-- What an account tells of a computation that loses the connection: either it could not open a cursor, or
it failed at work on the cursor, and then it was reported if the time could be told. -/
inductive Recounts (adapter : Adapter) (i : Nat) : Account → Option Error → Prop where
  | calm {account : Account} {failure : Option Error} : Calm account.said → account.reported = none →
      Recounts adapter i account failure
  | unopened {account : Account} {e : Error} : Calm account.said →
      Recounts adapter i (account ++ { said := [.opened i (.error e)] }) (some e)
  | told {account : Account} {entry : Entry} {start finish : Value} {e : Error} : Calm account.said →
      entry.error? = some e → entry.isOpening = false → adapter.TellsTime start finish →
      Recounts adapter i
        (account ++ { said := [entry], read := [.ok start, .ok finish], reported := some e }) (some e)
  | untold {account : Account} {entry : Entry} {start finish : Value} {e : Error} : Calm account.said →
      entry.isOpening = false → ¬ adapter.TellsTime start finish → losesConnection e = false →
      Recounts adapter i (account ++ { said := [entry], read := [.ok start, .ok finish] }) (some e)

/-- The same of a computation's outcome, of which only the failure matters. -/
abbrev Recounted (adapter : Adapter) (i : Nat) (account : Account) (outcome : Except Error α) : Prop :=
  Recounts adapter i account (failure? outcome)

theorem Recounts.after {first account : Account} {failure : Option Error} (hfirst : Calm first.said)
    (h : Recounts adapter i account failure) : Recounts adapter i (first ++ account) failure := by
  cases h with
  | calm hcalm hquiet => exact .calm (hfirst.append hcalm) hquiet
  | unopened hcalm =>
    rw [← Account.append_assoc]
    exact .unopened (hfirst.append hcalm)
  | told hcalm hlast hopening htold =>
    rw [← Account.append_assoc]
    exact .told (hfirst.append hcalm) hlast hopening htold
  | untold hcalm hopening huntold hkept =>
    rw [← Account.append_assoc]
    exact .untold (hfirst.append hcalm) hopening huntold hkept

/-- What succeeds is calm. -/
theorem Recounts.calm_of_ok {account : Account} (h : Recounts adapter i account none) :
    Calm account.said ∧ account.reported = none := by
  cases h with
  | calm hcalm hquiet => exact ⟨hcalm, hquiet⟩

/-- The last of the work is what it ended in. -/
theorem Works.last {statement : Statement} {options : List (Value × Value)} {said : List Entry}
    {worked : Except Error (List Value)} (h : Works i statement options said worked) :
    ∃ earlier entry, said = earlier ++ [entry] ∧ Calm earlier ∧ entry.isOpening = false ∧
      entry.error? = failure? worked := by
  cases h with
  | unexecuted e => exact ⟨[], _, rfl, calm_nil, rfl, rfl⟩
  | fetched reply => exact ⟨[_], _, rfl, calm_singleton fun e he => (by cases he), rfl, rfl⟩

theorem calm_opened : Calm [.opened i (.ok ())] :=
  calm_singleton fun e he => by cases he

/-- Work that was reported, or not told of, is recounted with its last call; other work is calm. -/
theorem WorksOn.recounts_error {statement : Statement} {account : Account}
    {worked : Except Error (List Value)} {e : Error}
    (h : WorksOn driver adapter i statement account worked (.error e)) :
    Recounts adapter i (account ++ { reported := reported? e }) (some e) := by
  obtain ⟨-, -, hworks, htimes, rfl⟩ := h
  obtain ⟨earlier, entry, rfl, hcalm, hopening, hlast⟩ := hworks.last
  have hearlier : Calm (.opened i (.ok ()) :: earlier) := calm_opened.append hcalm
  -- The last call stands apart from what was said before it.
  have hsplit (read : List (Except Error Value)) (reported : Option Error) :
      ({ said := .opened i (.ok ()) :: (earlier ++ [entry]), read } : Account) ++ { reported } =
        { said := .opened i (.ok ()) :: earlier } ++ { said := [entry], read, reported } := by
    simp [Account.append_def]
  cases htimes with
  | told htold =>
    rw [hsplit]
    cases hlost : losesConnection e with
    | true =>
      have hreported : reported? e = some e := by simp [reported?, hlost]
      rw [hreported]
      exact .told hearlier hlast hopening htold
    | false =>
      have hreported : reported? e = none := by simp [reported?, hlost]
      rw [hreported]
      refine .calm (hearlier.append (calm_singleton fun e' he' => ?_)) rfl
      rw [← Option.some.inj (hlast.symm.trans he')]
      exact hlost
  | untold _ _ huntold hkept =>
    have hreported : reported? e = none := by simp [reported?, hkept]
    rw [hsplit, hreported]
    exact .untold hearlier hopening huntold hkept

theorem WorksOn.calm_ok {statement : Statement} {account : Account} {worked : Except Error (List Value)}
    {rows : List Value} (h : WorksOn driver adapter i statement account worked (.ok rows)) :
    Calm account.said := by
  obtain ⟨-, -, hworks, htimes, rfl⟩ := h
  obtain ⟨earlier, entry, rfl, hcalm, -, hlast⟩ := hworks.last
  cases htimes with
  | told =>
    refine calm_opened.append (hcalm.append (calm_singleton fun e he => ?_))
    cases hlast.symm.trans he

theorem Exchange.recounts {statement : Statement} {account : Account}
    {outcome : Except Error (Option Response)} (h : Exchange driver adapter i statement account outcome) :
    Recounted adapter i account outcome := by
  cases h with
  | driverless | empty | driverMissing | miscounted => exact .calm calm_nil rfl
  | unopened => exact @Recounts.unopened adapter i {} _ calm_nil
  | unsettled => exact .calm calm_opened rfl
  | failed hwork => exact hwork.recounts_error
  | counted hwork =>
    exact .calm (hwork.calm_ok.append (calm_singleton fun e he => by cases he)) rfl

/-! ### Runs that lose a connection -/

theorem Recounts.bind {x : Run (Session (Book δ)) α} {f : α → Run (Session (Book δ)) β}
    (hx : Tells i session x (Recounted adapter i))
    (hf : ∀ a after, after.handles = session.handles →
      Tells i after (f a) (Recounted adapter i)) :
    Tells i session (x >>= f) (Recounted adapter i) := by
  refine hx.bind (fun account e h => h) fun account a after h => ?_
  obtain ⟨hcalm, hquiet⟩ := h.calm_of_ok
  exact ⟨hquiet, fun hhandles => (hf a after hhandles).imp fun rest outcome => .after hcalm⟩

theorem recounts_silent (outcome : Except Error α) :
    Tells i session (Run.ofExcept outcome) (Recounted adapter i) :=
  tells_silent rfl rfl rfl (.calm calm_nil rfl)

theorem recounts_runStatement (hclock : driver.ReadsClock) (hi : i < session.handles.length)
    (statement : Statement) :
    Tells i session (runStatement driver.booked adapter (some i) statement) (Recounted adapter i) := by
  have hsent : Tells i session (send driver.booked adapter (some i) statement) (Recounted adapter i) :=
    (tells_send hclock hi statement).imp fun _ _ h => h.recounts
  refine Recounts.bind hsent fun response after _ => ?_
  cases response with
  | none => exact recounts_silent (.ok _)
  | some response => exact recounts_silent _

theorem recounts_runMember (hclock : driver.ReadsClock) (hi : i < session.handles.length)
    (request : Request) :
    Tells i session (runMember driver.booked adapter (some i) request) (Recounted adapter i) := by
  cases request with
  | nothing => exact recounts_runStatement hclock hi _
  | statement statement => exact recounts_runStatement hclock hi statement
  | many requests | malformed =>
    exact Recounts.bind (recounts_silent _) fun _ _ _ => recounts_silent (.error _)

theorem recounts_runMembers (hclock : driver.ReadsClock) (hi : i < session.handles.length)
    (requests : List Request) :
    Tells i session (requests.mapM (runMember driver.booked adapter (some i))) (Recounted adapter i) := by
  induction requests generalizing session with
  | nil => exact recounts_silent (.ok [])
  | cons request requests ih =>
    rw [List.mapM_cons]
    refine Recounts.bind (recounts_runMember hclock hi request) fun result after hafter => ?_
    exact Recounts.bind (ih (hafter ▸ hi)) fun results _ _ => recounts_silent (.ok _)

theorem recounts_run (hclock : driver.ReadsClock) (hi : i < session.handles.length) (request : Request) :
    Tells i session (run driver.booked adapter (some i) request) (Recounted adapter i) := by
  cases request with
  | nothing | malformed => exact recounts_silent (.error _)
  | statement statement => exact recounts_runStatement hclock hi statement
  | many requests =>
    exact Recounts.bind (recounts_runMembers hclock hi requests) fun _ _ _ => recounts_silent (.ok _)

/-- The error is what a run over the connection failed with, and what the connection is disposed of for. -/
def RecordsLoss (i : Nat) (e : Error) (ended : Except Error Result × Session δ) : Prop :=
  ended.1 = .error e ∧ ∃ handle, ended.2.handles[i]? = some handle ∧ handle.disposed = some e

/-- The time between the last two readings of the clock can be told. -/
def TellsLastTime (adapter : Adapter) (readings : List (Except Error Value)) : Prop :=
  ∃ earlier start finish, readings = earlier ++ [.ok start, .ok finish] ∧ adapter.TellsTime start finish

theorem tellsLastTime_append {earlier : List (Except Error Value)} {start finish : Value} :
    TellsLastTime adapter (earlier ++ [.ok start, .ok finish]) ↔ adapter.TellsTime start finish := by
  constructor
  · rintro ⟨earlier', start', finish', h, htells⟩
    have hlast := List.append_inj' h rfl
    simp only [List.cons.injEq, Except.ok.injEq, and_true] at hlast
    rw [hlast.2.1, hlast.2.2]
    exact htells
  · intro htells
    exact ⟨earlier, start, finish, rfl, htells⟩

/-- How a call that lost the connection shows in what is recounted. -/
theorem Recounts.of_lost {account : Account} {failure : Option Error} {entry : Entry} {e : Error}
    (h : Recounts adapter i account failure) (hentry : entry ∈ account.said) (hraised : entry.error? = some e)
    (hlost : losesConnection e = true) :
    (entry.isOpening = true ∧ failure = some e ∧ account.reported = none) ∨
      (entry.isOpening = false ∧ TellsLastTime adapter account.read ∧ failure = some e ∧
        account.reported = some e) ∨
      (entry.isOpening = false ∧ ¬ TellsLastTime adapter account.read ∧ failure ≠ some e ∧
        account.reported = none) := by
  cases h with
  | calm hcalm _ =>
    rw [hcalm entry hentry e hraised] at hlost
    cases hlost
  | unopened hcalm =>
    obtain rfl := hcalm.eq_last hentry hraised hlost
    exact .inl ⟨rfl, hraised, rfl⟩
  | told hcalm hlast hopening htold =>
    obtain rfl := hcalm.eq_last hentry hraised hlost
    obtain rfl := Option.some.inj (hraised.symm.trans hlast)
    exact .inr (.inl ⟨hopening, tellsLastTime_append.mpr htold, rfl, rfl⟩)
  | untold hcalm hopening huntold hkept =>
    obtain rfl := hcalm.eq_last hentry hraised hlost
    refine .inr (.inr ⟨hopening, fun h => huntold (tellsLastTime_append.mp h), ?_, rfl⟩)
    intro hfailure
    rw [Option.some.inj hfailure, hlost] at hkept
    cases hkept

/-- Whatever was done in a session before, if a driver call made by a run over a standing connection raises
an error that loses the connection, then the run fails with it, and the connection is disposed of for it,
unless the call was to open a cursor, of which no listener is told, or the time that the work took cannot be
told, which hides the error. -/
theorem run_recordsLoss_iff {d : δ} {operations : List Operation}
    {history : List (Operation × Except Error Unit)} {session : Session δ} {handle : Handle}
    {entry : Entry} {e : Error} (request : Request) (hclock : driver.ReadsClock)
    (hsession : performEach driver adapter operations { driver := d } = (history, session))
    (hstanding : (standing history)[i]? = some true) (hhandle : session.handles[i]? = some handle)
    (hentry : entry ∈ (bookedRun driver adapter i request session).2.driver.entries)
    (hraised : entry.error? = some e) (hlost : losesConnection e = true) :
    ((run driver adapter (some i) request session).1 = .error e ↔ entry.isOpening = true ∨
        TellsLastTime adapter (bookedRun driver adapter i request session).2.driver.readings) ∧
      (RecordsLoss i e (run driver adapter (some i) request session) ↔
        if entry.isOpening then handle.disposed = some e
        else TellsLastTime adapter (bookedRun driver adapter i request session).2.driver.readings) := by
  have hi : i < session.withBook.handles.length := (List.getElem?_eq_some_iff.mp hhandle).1
  obtain ⟨account, hrecounted, hentries, hreadings, hhandles⟩ := (recounts_run hclock hi request).of_booked
  -- The connection was not destroyed, so that its listener is still there.
  obtain ⟨isStanding, hstands, hlisteners⟩ :=
    (attended_of_performEach hsession).standing_of_handle hhandle
  obtain rfl : true = isStanding := Option.some.inj (hstanding.symm.trans hstands)
  have hafter : (run driver adapter (some i) request session).2.handles[i]? =
      some (account.reported.elim handle fun e => handle.hear e) := by
    rw [hhandles]
    cases account.reported <;> simp [hhandle]
  rw [hentries] at hentry
  rw [hreadings, RecordsLoss, hafter, eq_error_iff]
  rcases hrecounted.of_lost hentry hraised hlost with
    ⟨hopening, hfailed, hquiet⟩ | ⟨hopening, htold, hfailed, hreported⟩ |
    ⟨hopening, huntold, hfailed, hquiet⟩
  · simp [hopening, hfailed, hquiet]
  · simp [hopening, hfailed, hreported, htold, disposed_hear hlisteners]
  · simp [hopening, hfailed, hquiet, huntold]

theorem readsClock_scripted : Scripted.driver.ReadsClock := by
  intro d
  cases hclock : d.clock with
  | nil => exact ⟨.int 0, by simp [Scripted.driver, Scripted.tick, hclock]⟩
  | cons t clock => exact ⟨t, by simp [Scripted.driver, Scripted.tick, hclock]⟩

def connectionLost : Error :=
  .raised .operational "connection lost"

def plainAdapter : Adapter :=
  { dialect := .snowflake true none, slowQueryMs := 1000, config := {} }

def halfSecond : Value :=
  .float (.finite false 1 (-1))

/-- The connection is lost at the second of two statements. -/
def secondLost : Scripted :=
  { executeError := some connectionLost
    failingSql := .text "select 2"
    clock := [halfSecond, halfSecond, halfSecond, halfSecond] }

def twoStatements : Request :=
  .many [.sql "select 1", .sql "select 2"]

/-- The session with one connection to that driver. -/
def secondLostSession : Session Scripted :=
  { driver := { secondLost with requests := [.connect [(.text "paramstyle", .text "qmark")]] }
    isLoaded := true
    handles := [.fresh [(.text "paramstyle", .text "qmark")]]
    notes := [.logged {
      level := .info
      message := "Connecting to Snowflake snowflake:// (autocommit=None)" }] }

theorem secondLost_recordsLoss :
    let entry : Entry := .executed 0 (.text "select 2") none [] (.error connectionLost)
    performEach Scripted.driver plainAdapter [.acquire] { driver := secondLost } =
        ([(.acquire, .ok ())], secondLostSession) ∧
      (bookedRun Scripted.driver plainAdapter 0 twoStatements secondLostSession).2.driver.entries[5]? =
        some entry ∧
      entry.error? = some connectionLost ∧ losesConnection connectionLost = true ∧
      RecordsLoss 0 connectionLost
        (run Scripted.driver plainAdapter (some 0) twoStatements secondLostSession) := by
  intro entry
  have hsession : performEach Scripted.driver plainAdapter [.acquire] { driver := secondLost } =
    ([(.acquire, .ok ())], secondLostSession) := rfl
  have hentry : (bookedRun Scripted.driver plainAdapter 0 twoStatements
    secondLostSession).2.driver.entries[5]? = some entry := rfl
  have htold : TellsLastTime plainAdapter
      (bookedRun Scripted.driver plainAdapter 0 twoStatements secondLostSession).2.driver.readings :=
    ⟨[.ok halfSecond, .ok halfSecond], _, _, rfl, plainAdapter.tellsTime_real _ _⟩
  exact ⟨hsession, hentry, rfl, rfl, (run_recordsLoss_iff twoStatements readsClock_scripted hsession
    rfl rfl (List.mem_of_getElem? hentry) rfl rfl).2.mpr htold⟩

/-- No cursor can be opened. -/
def cursorless : Driver Scripted :=
  { Scripted.driver with openCursor := fun _ => Run.fail connectionLost }

/-- The clock shows a number too large to be told after the statement has failed. -/
def untoldLoss : Scripted :=
  { executeError := some connectionLost
    clock := [halfSecond, .int (Int.ofNat (Nat.pow 10 400))] }

/-- A cursor that cannot be opened leaves the connection as it was, and so does an execution that fails
where the clock then shows a number too large to be told. -/
theorem loss_unrecorded :
    let request : Request := .sql "select 1"
    let acquired := (performEach cursorless plainAdapter [.acquire] { driver := {} }).2
    let unopened := run cursorless plainAdapter (some 0) request acquired
    let acquired' := (performEach Scripted.driver plainAdapter [.acquire] { driver := untoldLoss }).2
    let untold := run Scripted.driver plainAdapter (some 0) request acquired'
    (bookedRun cursorless plainAdapter 0 request acquired).2.driver.entries.filterMap Entry.error? =
        [connectionLost] ∧
      unopened.1 = .error connectionLost ∧ unopened.2.handles.map (·.disposed) = [none] ∧
      (bookedRun Scripted.driver plainAdapter 0 request acquired').2.driver.entries.filterMap Entry.error? =
        [connectionLost] ∧
      untold.1 = .error .integerTooLarge ∧ untold.2.handles.map (·.disposed) = [none] :=
  ⟨by decide +kernel, eq_error_iff.mpr (by decide +kernel), by decide +kernel,
    by decide +kernel, eq_error_iff.mpr (by decide +kernel), by decide +kernel⟩

end Session

end SqlBuilder
