import SqlBuilder.Proofs.Recorded.Outcome
import SqlBuilder.Proofs.Redaction.Exposure
import SqlBuilder.Proofs.Session.Sending

/-!
What a session adds to its log. Main statement: the entry for a statement holds the masked bindings, in which
sensitive text is left to see exactly if it stands in a mapping.
-/

namespace SqlBuilder

/-- The entry is for work with these parameters. -/
def LogEntry.Shows (params : Value) (entry : LogEntry) : Prop :=
  ∃ sql elapsed, entry.timing = some { sql, params, elapsed }

theorem LogEntry.shows_of_timed {name : String} {sql params threshold start finish : Value} {entry : LogEntry}
    (h : LogEntry.timed name sql params threshold start finish = .ok entry) : entry.Shows params := by
  obtain ⟨start', -, h⟩ := Recorded.except_bind_eq_ok.mp h
  obtain ⟨finish', -, h⟩ := Recorded.except_bind_eq_ok.mp h
  obtain ⟨elapsed, -, h⟩ := Recorded.except_bind_eq_ok.mp h
  obtain ⟨threshold', -, h⟩ := Recorded.except_bind_eq_ok.mp h
  obtain ⟨real, -, h⟩ := Recorded.except_bind_eq_ok.mp h
  obtain rfl := Except.ok.inj h
  exact ⟨_, _, rfl⟩

namespace Session

open Redaction (Exposes)

variable {δ α β : Type} {driver : Driver δ} {adapter : Adapter} {P : LogEntry → Prop}

/-- All that a computation notes in a session are log entries of this kind. -/
def Logs (P : LogEntry → Prop) (x : Run (Session δ) α) : Prop :=
  ∀ session, ∃ entries : List LogEntry, (x session).2.notes = session.notes ++ entries.map .logged ∧
    ∀ entry ∈ entries, P entry

theorem logs_of_keeps {x : Run (Session δ) α} (h : Run.Keeps Session.notes x) : Logs P x := by
  intro session
  exact ⟨[], by simp [h session], by simp⟩

theorem logs_record {entry : LogEntry} (h : P entry) : Logs P (record (δ := δ) [.logged entry]) := by
  intro session
  exact ⟨[entry], rfl, by simpa using h⟩

theorem Logs.bind {x : Run (Session δ) α} {f : α → Run (Session δ) β} (hx : Logs P x)
    (hf : ∀ a, Logs P (f a)) : Logs P (x >>= f) := by
  intro session
  obtain ⟨entries, hnotes, hentries⟩ := hx session
  cases h : x session with
  | mk outcome after =>
    rw [h] at hnotes
    cases outcome with
    | error e => exact ⟨entries, by rw [Run.bind_error h]; exact hnotes, hentries⟩
    | ok a =>
      obtain ⟨more, hmore, hlogged⟩ := hf a after
      refine ⟨entries ++ more, ?_, ?_⟩
      · rw [Run.bind_ok h, hmore, hnotes, List.map_append, List.append_assoc]
      · exact List.forall_mem_append.mpr ⟨hentries, hlogged⟩

theorem Logs.attempt {x : Run (Session δ) α} (hx : Logs P x) : Logs P (Run.attempt x) :=
  hx

/-! ### Stages of sending -/

theorem notes_besidesDriver : BesidesDriver (δ := δ) Session.notes :=
  fun _ _ _ => rfl

theorem keepsNotes_emit (i : Nat) (event : String) (errors : List Error) :
    Run.Keeps Session.notes (emit (δ := δ) i event errors) := by
  unfold emit
  refine (Run.keeps_read _).bind fun handles => ?_
  split
  · exact Run.keeps_fail _
  · refine (Run.keeps_ofExcept _).bind fun changed => Run.Keeps.bind (fun _ => rfl) fun _ => ?_
    exact Run.keeps_pure _

theorem keepsNotes_conclude (i : Nat) (outcome : Except Error (List Value)) :
    Run.Keeps Session.notes (conclude driver i outcome) := by
  cases outcome with
  | ok rows => exact (keeps_onDriver notes_besidesDriver _).bind fun rowCount => Run.keeps_pure _
  | error e =>
    cases hlost : losesConnection e with
    | false => rw [conclude_kept hlost]; exact Run.keeps_fail e
    | true =>
      rw [conclude_lost hlost]
      exact (keepsNotes_emit _ _ _).bind fun _ => Run.keeps_fail e

/-- What is computed without a session decides what comes after it. -/
theorem Logs.ofExcept_bind {x : Except Error α} {f : α → Run (Session δ) β}
    (hf : ∀ a, x = .ok a → Logs P (f a)) : Logs P ((liftM x : Run (Session δ) α) >>= f) := by
  cases x with
  | ok a => exact hf a rfl
  | error e => exact logs_of_keeps (Run.keeps_fail e)

/-- The entry for the work on a statement shows its masked bindings. -/
theorem logs_timed (i : Nat) (statement : Statement) (options : List (Value × Value)) :
    Logs (·.Shows (.list (Redaction.values statement.bindings)))
      (timed driver adapter statement (execute driver i statement options)) := by
  unfold timed
  refine (logs_of_keeps (keeps_onDriver notes_besidesDriver _)).bind fun start => ?_
  refine (logs_of_keeps (keeps_execute notes_besidesDriver i statement options)).attempt.bind fun outcome => ?_
  refine (logs_of_keeps (keeps_onDriver notes_besidesDriver _)).bind fun finish => ?_
  refine Logs.ofExcept_bind fun entry hentry => ?_
  exact (logs_record (LogEntry.shows_of_timed hentry)).bind fun _ => logs_of_keeps (Run.keeps_ofExcept outcome)

theorem logs_send (driver : Driver δ) (adapter : Adapter) (connection : Option Nat) (statement : Statement) :
    Logs (·.Shows (.list (Redaction.values statement.bindings)))
      (send driver adapter connection statement) := by
  cases connection with
  | none =>
    unfold send
    refine Logs.ofExcept_bind fun _ _ => ?_
    cases statement.sql.isTrue with
    | false => exact logs_of_keeps (Run.keeps_pure none)
    | true =>
      refine (logs_of_keeps (keeps_load notes_besidesDriver)).bind fun _ => Logs.ofExcept_bind fun _ _ => ?_
      exact logs_of_keeps (Run.keeps_fail _)
  | some i =>
    rw [send_eq]
    refine Logs.ofExcept_bind fun _ _ => ?_
    cases statement.sql.isTrue with
    | false => exact logs_of_keeps (Run.keeps_pure none)
    | true =>
      refine (logs_of_keeps (keeps_load notes_besidesDriver)).bind fun _ => Logs.ofExcept_bind fun _ _ => ?_
      refine (logs_of_keeps (keeps_onDriver notes_besidesDriver _)).bind fun _ => ?_
      refine Logs.ofExcept_bind fun options _ => ?_
      refine (logs_timed i statement options).attempt.bind fun outcome => ?_
      exact logs_of_keeps (keepsNotes_conclude i outcome)

/-- Whatever is bound, sensitive text is left to see in what is logged of it exactly if it stands in a mapping
that is bound by itself or within lists and tuples; and the masked bindings are all that is ever logged of
them. -/
theorem logged_exposes_iff (bindings : List Value) :
    (Exposes (.list (Redaction.values bindings)) ↔
        ∃ entries, (Value.dict entries).ListedIn (.list bindings) ∧ Exposes (.dict entries)) ∧
      ∀ (δ : Type) (driver : Driver δ) (adapter : Adapter) (connection : Option Nat) (statement : Statement),
        Logs (·.Shows (.list (Redaction.values bindings)))
          (send driver adapter connection { statement with bindings }) := by
  refine ⟨?_, ?_⟩
  · exact Redaction.exposes_value_iff (.list bindings)
  · intro δ driver adapter connection statement
    exact logs_send driver adapter connection { statement with bindings }

/-- A mapping is logged as it was bound. -/
theorem mapping_exposed :
    let bindings : List Value := [.dict [(.text "note", .text "my password is hunter2")]]
    Exposes (.list (Redaction.values bindings)) ∧
      Redaction.isSensitiveValue "my password is hunter2" = true := by
  intro bindings
  have hsensitive : Redaction.isSensitiveValue "my password is hunter2" = true := by decide
  have hstands : Value.StandsIn (.text "my password is hunter2") (.list (Redaction.values bindings)) :=
    .list List.mem_cons_self (.entry List.mem_cons_self .self)
  exact ⟨⟨_, hstands, hsensitive⟩, hsensitive⟩

end Session

end SqlBuilder
