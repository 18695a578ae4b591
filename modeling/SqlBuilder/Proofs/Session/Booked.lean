import SqlBuilder.Proofs.Session.Viewing

/-!
Drivers that keep a book of what is said to them about statements. Main statement: keeping the book
changes nothing, so that what is read in it was said in the same run without it.
-/

namespace SqlBuilder

namespace Driver

/-- A driver's part in sending a statement over a connection: what was asked, and the reply. -/
inductive Entry where
  | opened (i : Nat) (reply : Except Error Unit)
  | executed (i : Nat) (sql : Value) (bindings : Option (List Value)) (options : List (Value × Value))
      (reply : Except Error Unit)
  | fetched (i : Nat) (reply : Except Error (List Value))
  | counted (i : Nat) (reply : Except Error Value)

/-- A driver's state with all entries so far, and all readings of the clock. -/
structure Book (δ : Type) where
  driver : δ
  entries : List Entry := []
  readings : List (Except Error Value) := []

variable {δ α : Type}

/-- Does a driver's work and writes down how it ended. -/
def noting (x : Run δ α) (entries : Except Error α → List Entry)
    (readings : Except Error α → List (Except Error Value)) : Run (Book δ) α := fun book =>
  ((x book.driver).1, {
    driver := (x book.driver).2
    entries := book.entries ++ entries (x book.driver).1
    readings := book.readings ++ readings (x book.driver).1 })

/-- Connections made and closed are no part of the book. -/
def booked (driver : Driver δ) : Driver (Book δ) where
  isInstalled book := driver.isInstalled book.driver
  connect settings := noting (driver.connect settings) (fun _ => []) fun _ => []
  openCursor i := noting (driver.openCursor i) (fun reply => [.opened i reply]) fun _ => []
  execute i sql bindings options := noting (driver.execute i sql bindings options)
    (fun reply => [.executed i sql bindings options reply]) fun _ => []
  rows i := noting (driver.rows i) (fun reply => [.fetched i reply]) fun _ => []
  rowCount i := noting (driver.rowCount i) (fun reply => [.counted i reply]) fun _ => []
  close i := noting (driver.close i) (fun _ => []) fun _ => []
  now := noting driver.now (fun _ => []) fun reply => [reply]

end Driver

namespace Session

open Driver (Book)

variable {δ : Type} {driver : Driver δ} {adapter : Adapter}

/-- A session without the book of its driver. -/
def unbooked (session : Session (Book δ)) : Session δ where
  driver := session.driver.driver
  isLoaded := session.isLoaded
  handles := session.handles
  notes := session.notes

/-- The same session with an empty book. -/
def withBook (session : Session δ) : Session (Book δ) where
  driver := { driver := session.driver }
  isLoaded := session.isLoaded
  handles := session.handles
  notes := session.notes

@[simp] theorem unbooked_withBook (session : Session δ) : session.withBook.unbooked = session := rfl

/-- Each call does what it does without the book. -/
theorem booked_viewsAs (driver : Driver δ) : Driver.ViewsAs Book.driver driver.booked driver where
  isInstalled _ := rfl
  connect _ _ := rfl
  openCursor _ _ := rfl
  execute _ _ _ _ _ := rfl
  rows _ _ := rfl
  rowCount _ _ := rfl
  close _ _ := rfl
  now _ := rfl

/-- A run over a connection whose driver keeps a book, which is empty at first. -/
def bookedRun (driver : Driver δ) (adapter : Adapter) (i : Nat) (request : Request)
    (session : Session δ) : Except Error Result × Session (Book δ) :=
  run driver.booked adapter (some i) request session.withBook

/-- Keeping the book changes neither the result nor the session. -/
theorem run_eq_bookedRun (i : Nat) (request : Request) (session : Session δ) :
    run driver adapter (some i) request session =
      ((bookedRun driver adapter i request session).1,
        (bookedRun driver adapter i request session).2.unbooked) :=
  views_run (booked_viewsAs driver) i request session.withBook

end Session

end SqlBuilder
