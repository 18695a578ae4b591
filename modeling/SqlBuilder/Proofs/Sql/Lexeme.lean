import Mathlib.Algebra.GroupWithZero.Nat
import Mathlib.Data.List.Infix
import SqlBuilder.Proofs.Sql.Placeholder

/-!
Statements by their lexemes: code, quoted names and constants, and comments. Main statement: the placeholders
that are counted are the marks in the code exactly if no comment holds a mark outside quotes, as long as
comments close the quotes in them.
-/

namespace SqlBuilder

open Placeholder

/-- Text in which no quote and no comment opens. -/
structure Lexeme.IsCode (cs : List Char) : Prop where
  single : '\'' ∉ cs
  double : '"' ∉ cs
  line : ¬ ['-', '-'] <:+: cs
  block : ¬ ['/', '*'] <:+: cs

instance (cs : List Char) : Decidable (Lexeme.IsCode cs) :=
  decidable_of_iff ('\'' ∉ cs ∧ '"' ∉ cs ∧ ¬ ['-', '-'] <:+: cs ∧ ¬ ['/', '*'] <:+: cs)
    ⟨fun ⟨single, double, line, block⟩ => ⟨single, double, line, block⟩,
      fun h => ⟨h.single, h.double, h.line, h.block⟩⟩

inductive Lexeme where
  | code (cs : List Char) (isCode : Lexeme.IsCode cs)
  | identifier (name : List Char)
  | constant (value : List Char)
  /-- A comment up to the end of its line; the line break belongs to what follows. -/
  | lineComment (cs : List Char) (isLine : '\n' ∉ cs)
  | blockComment (cs : List Char) (isOpen : ¬ ['*', '/'] <:+: cs)

namespace Lexeme

def written : Lexeme → List Char
  | code cs _ => cs
  | identifier name => '"' :: Text.double '"' name ++ ['"']
  | constant value => '\'' :: Text.double '\'' value ++ ['\'']
  | lineComment cs _ => '-' :: '-' :: cs
  | blockComment cs _ => '/' :: '*' :: cs ++ ['*', '/']

def isComment : Lexeme → Bool
  | lineComment .. | blockComment .. => true
  | _ => false

/-- The marks that a database takes for placeholders. -/
def placeholders : Lexeme → Nat
  | code cs _ => cs.count mark
  | _ => 0

/-- The marks of a comment outside the quotes in it. -/
def stray (lexeme : Lexeme) : Nat :=
  if lexeme.isComment then countFrom none lexeme.written else 0

/-- The quotes in a comment are closed in it. -/
def Closes (lexeme : Lexeme) : Prop :=
  lexeme.isComment = true → quoteAfter none lexeme.written = none

instance (lexeme : Lexeme) : Decidable lexeme.Closes :=
  inferInstanceAs (Decidable (_ → _))

theorem scan_code {cs : List Char} (hsingle : '\'' ∉ cs) (hdouble : '"' ∉ cs) :
    quoteAfter none cs = none ∧ countFrom none cs = cs.count mark := by
  induction cs with
  | nil => exact ⟨rfl, rfl⟩
  | cons c cs ih =>
    simp only [List.mem_cons, not_or] at hsingle hdouble
    obtain ⟨hquote, hcount⟩ := ih hsingle.2 hdouble.2
    have hopen : openQuote none c = none := by
      simp [openQuote, Ne.symm hsingle.1, Ne.symm hdouble.1]
    refine ⟨?_, ?_⟩
    · rw [quoteAfter, List.foldl_cons, hopen]
      exact hquote
    · rw [countFrom, hopen, hcount, List.count_cons]
      simp [Nat.add_comm]

theorem quoteAfter_written {lexeme : Lexeme} (h : lexeme.Closes) : quoteAfter none lexeme.written = none := by
  cases lexeme with
  | code cs isCode => exact (scan_code isCode.single isCode.double).1
  | identifier name => exact (calm_quoted (.inr rfl) name).1
  | constant value => exact (calm_quoted (.inl rfl) value).1
  | lineComment | blockComment => exact h rfl

theorem countFrom_written (lexeme : Lexeme) :
    countFrom none lexeme.written = lexeme.placeholders + lexeme.stray := by
  cases lexeme with
  | code cs isCode => exact (scan_code isCode.single isCode.double).2
  | identifier name => exact (calm_quoted (.inr rfl) name).2
  | constant value => exact (calm_quoted (.inl rfl) value).2
  | lineComment | blockComment => simp [placeholders, stray, isComment]

/-! ### Statements -/

def sql (lexemes : List Lexeme) : String :=
  String.ofList (lexemes.flatMap written)

/-- Each lexeme is read from outside quotes, since those before it leave none open. -/
theorem count_sql {lexemes : List Lexeme} (h : ∀ lexeme ∈ lexemes.dropLast, lexeme.Closes) :
    count (sql lexemes) = (lexemes.map placeholders).sum + (lexemes.map stray).sum := by
  rw [count, sql, String.toList_ofList]
  induction lexemes with
  | nil => rfl
  | cons lexeme lexemes ih =>
    have hcons : countFrom none ((lexeme :: lexemes).flatMap written) =
        lexeme.placeholders + lexeme.stray +
          countFrom (quoteAfter none lexeme.written) (lexemes.flatMap written) := by
      rw [List.flatMap_cons, countFrom_append, countFrom_written]
    cases lexemes with
    | nil => simpa [countFrom] using hcons
    | cons next lexemes =>
      have hlexeme : lexeme.Closes := h lexeme (by simp)
      have hlexemes := ih fun other hother => h other (by simp [hother])
      rw [hcons, quoteAfter_written hlexeme, hlexemes]
      simp only [List.map_cons, List.sum_cons]
      omega

/-- A statement is accepted with one binding for each of its placeholders, and with no other number of them,
exactly if no comment in it holds a mark outside quotes. -/
theorem sql_accepted_iff {lexemes : List Lexeme} (h : ∀ lexeme ∈ lexemes.dropLast, lexeme.Closes) :
    (count (sql lexemes) = (lexemes.map placeholders).sum ∧
      ∀ bindings, check (.text (sql lexemes)) bindings = .ok () ↔
        bindings.length = (lexemes.map placeholders).sum) ↔
    ∀ lexeme ∈ lexemes, lexeme.stray = 0 := by
  have hcount := count_sql h
  have hstray : (lexemes.map stray).sum = 0 ↔ ∀ lexeme ∈ lexemes, lexeme.stray = 0 := by
    simp [List.sum_eq_zero_iff_forall_eq_nat]
  simp only [check_text_eq_ok]
  rw [← hstray]
  constructor
  · rintro ⟨hsql, -⟩
    omega
  · intro hzero
    have hsql : count (sql lexemes) = (lexemes.map placeholders).sum := by omega
    exact ⟨hsql, fun bindings => by rw [hsql]⟩

/-- One placeholder, and marks in a constant, in an identifier and in a quote of a comment. -/
def commented : List Lexeme := [
  .code "select ".toList (by decide), .constant "?".toList, .code " as ".toList (by decide),
  .identifier "what?".toList, .code " where a = ? ".toList (by decide),
  .lineComment " the \"what?\"".toList (by decide)]

theorem commented_accepted : sql commented = "select '?' as \"what?\" where a = ? -- the \"what?\"" ∧
    count (sql commented) = 1 ∧ check (.text (sql commented)) [.int 7] = .ok () := by
  have hcloses : ∀ lexeme ∈ commented.dropLast, lexeme.Closes := by decide
  have hstray : ∀ lexeme ∈ commented, lexeme.stray = 0 := by decide
  obtain ⟨hcount, hcheck⟩ := (sql_accepted_iff hcloses).mpr hstray
  exact ⟨by decide, hcount, (hcheck [.int 7]).mpr rfl⟩

/-- No placeholder, and a mark in a comment. -/
def remarked : List Lexeme := [.code "select 1 ".toList (by decide), .lineComment " really?".toList (by decide)]

/-- A mark in a comment is taken for a placeholder, so that a statement without any is refused. -/
theorem commentMark_counted : sql remarked = "select 1 -- really?" ∧ (remarked.map placeholders).sum = 0 ∧
    count (sql remarked) = 1 ∧ check (.text (sql remarked)) [] = .error (.parameterCount 1 0) := by
  decide

/-! ### Comments that leave a quote open -/

theorem isQuote_of_quoteAfter {quote : Option Char} (hquote : ∀ q, quote = some q → q = '\'' ∨ q = '"')
    {cs : List Char} {q : Char} (h : quoteAfter quote cs = some q) : q = '\'' ∨ q = '"' := by
  induction cs generalizing quote with
  | nil => exact hquote q h
  | cons c cs ih =>
    rw [quoteAfter, List.foldl_cons] at h
    refine ih (fun q hq => ?_) h
    cases quote with
    | some opened =>
      simp only [openQuote] at hq
      split at hq
      · cases hq
      · exact hquote q hq
    | none =>
      simp only [openQuote] at hq
      split at hq
      · next hc =>
        obtain rfl := Option.some.inj hq
        exact hc
      · cases hq

theorem countFrom_quoted {q : Char} {cs : List Char} (h : q ∉ cs) : countFrom (some q) cs = 0 := by
  induction cs with
  | nil => rfl
  | cons c cs ih =>
    simp only [List.mem_cons, not_or] at h
    have hopen : openQuote (some q) c = some q := if_neg (Ne.symm h.1)
    rw [countFrom, hopen, ih h.2]
    rfl

/-- Code after a comment that leaves a quote open is read as if it stood in that quote. -/
theorem count_unclosed {before : List Lexeme} {comment : Lexeme} (hbefore : ∀ lexeme ∈ before, lexeme.Closes)
    (hcomment : ¬ comment.Closes) {cs : List Char} (isCode : IsCode cs) :
    count (sql (before ++ [comment, code cs isCode])) = count (sql (before ++ [comment])) := by
  have hopen : quoteAfter none (before.flatMap written) = none := by
    induction before with
    | nil => rfl
    | cons lexeme before ih =>
      rw [List.flatMap_cons, quoteAfter_append, quoteAfter_written (hbefore lexeme (by simp))]
      exact ih fun other hother => hbefore other (by simp [hother])
  have hcode : countFrom (quoteAfter none comment.written) cs = 0 := by
    cases hquote : quoteAfter none comment.written with
    | none => exact absurd (fun _ => hquote) hcomment
    | some q =>
      rcases isQuote_of_quoteAfter (fun q hq => by cases hq) hquote with rfl | rfl
      · exact countFrom_quoted isCode.single
      · exact countFrom_quoted isCode.double
  have hwritten : (code cs isCode).written = cs := rfl
  simp only [count, sql, String.toList_ofList, List.flatMap_append, countFrom_append, hopen]
  simp [countFrom_append, hwritten, hcode]

end Lexeme

end SqlBuilder
