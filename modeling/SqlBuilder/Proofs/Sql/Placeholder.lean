import SqlBuilder.Proofs.Name.Reference
import SqlBuilder.Proofs.Number.Numeral
import SqlBuilder.Sql.Placeholder

/-!
Placeholders as a driver finds them. Main statement: plain code and well-written identifiers leave no quote
open and hold no placeholder outside quotes.
-/

namespace SqlBuilder

namespace Placeholder

open Name

/-- The quote that is open after these characters. -/
def quoteAfter (quote : Option Char) (cs : List Char) : Option Char :=
  cs.foldl openQuote quote

theorem quoteAfter_append (quote : Option Char) (xs ys : List Char) :
    quoteAfter quote (xs ++ ys) = quoteAfter (quoteAfter quote xs) ys :=
  List.foldl_append

theorem countFrom_append (quote : Option Char) (xs ys : List Char) :
    countFrom quote (xs ++ ys) = countFrom quote xs + countFrom (quoteAfter quote xs) ys := by
  induction xs generalizing quote with
  | nil => simp [countFrom, quoteAfter]
  | cons x xs ih =>
    rw [List.cons_append, countFrom, countFrom, ih, Nat.add_assoc]
    rfl

/-- No quote is left open, and no placeholder stands outside quotes. -/
def Calm (cs : List Char) : Prop :=
  quoteAfter none cs = none ∧ countFrom none cs = 0

theorem calm_nil : Calm [] := ⟨rfl, rfl⟩

theorem Calm.append {xs ys : List Char} (hx : Calm xs) (hy : Calm ys) : Calm (xs ++ ys) := by
  refine ⟨?_, ?_⟩
  · rw [quoteAfter_append, hx.1, hy.1]
  · rw [countFrom_append, hx.1, hx.2, hy.2]

/-- Neither a quote nor a placeholder. -/
def isPlain (c : Char) : Bool :=
  c != '\'' && c != '"' && c != mark

theorem calm_of_plain {cs : List Char} (h : cs.all isPlain = true) : Calm cs := by
  induction cs with
  | nil => exact calm_nil
  | cons c cs ih =>
    simp only [List.all_cons, Bool.and_eq_true] at h
    obtain ⟨hc, hcs⟩ := h
    obtain ⟨hq, hn⟩ := ih hcs
    simp only [isPlain, Bool.and_eq_true, bne_iff_ne, ne_eq] at hc
    have hopen : openQuote none c = none := by simp [openQuote, hc.1.1, hc.1.2]
    refine ⟨?_, ?_⟩
    · rw [quoteAfter, List.foldl_cons, hopen]
      exact hq
    · rw [countFrom, hopen, hn]
      simp [hc.2]

theorem isPlain_of_isNumeral {cs : List Char} (h : cs.all Binary64.isNumeral = true) : cs.all isPlain = true :=
  Binary64.all_of_isNumeral (by decide) h

theorem check_text {sql : String} {bindings : List Value} (h : count sql = bindings.length) :
    check (.text sql) bindings = .ok () := by
  unfold check
  change (if count sql ≠ bindings.length then _ else _) = _
  exact if_neg (not_not_intro h)

theorem check_text_eq_ok {sql : String} {bindings : List Value} :
    check (.text sql) bindings = .ok () ↔ bindings.length = count sql := by
  by_cases h : count sql = bindings.length
  · exact iff_of_true (check_text h) h.symm
  · have hthrow : check (.text sql) bindings = .error (.parameterCount (count sql) bindings.length) := by
      change (if count sql ≠ bindings.length then _ else _) = _
      exact if_pos h
    rw [hthrow]
    exact iff_of_false (fun hok => by cases hok) (Ne.symm h)

/-- A quote written twice is closed and opened again. -/
theorem scan_doubled {cs : List Char} (h : Doubled cs) :
    quoteAfter (some quoteMark) cs = some quoteMark ∧ countFrom (some quoteMark) cs = 0 := by
  induction h with
  | nil => exact ⟨rfl, rfl⟩
  | other hc _ ih =>
    have hopen : openQuote (some quoteMark) _ = some quoteMark := if_neg hc
    refine ⟨?_, ?_⟩
    · rw [quoteAfter, List.foldl_cons, hopen]
      exact ih.1
    · rw [countFrom, hopen, ih.2]
      rfl
  | pair _ ih =>
    refine ⟨ih.1, ?_⟩
    change 0 + (0 + countFrom (some quoteMark) _) = 0
    rw [ih.2]

theorem quote_ne_mark {q : Char} (hq : q = '\'' ∨ q = '"') : q ≠ mark := by
  rintro rfl
  revert hq
  decide

theorem scan_double {q : Char} (hq : q = '\'' ∨ q = '"') (cs : List Char) :
    quoteAfter (some q) (Text.double q cs) = some q ∧ countFrom (some q) (Text.double q cs) = 0 := by
  induction cs with
  | nil => exact ⟨rfl, rfl⟩
  | cons c cs ih =>
    have hcons : Text.double q (c :: cs) = (if c = q then [q, q] else [c]) ++ Text.double q cs := rfl
    have hfirst : quoteAfter (some q) (if c = q then [q, q] else [c]) = some q ∧
        countFrom (some q) (if c = q then [q, q] else [c]) = 0 := by
      split
      · simp [quoteAfter, countFrom, openQuote, hq, quote_ne_mark hq]
      · next hc => exact ⟨if_neg hc, rfl⟩
    rw [hcons, quoteAfter_append, countFrom_append, hfirst.1, hfirst.2, ih.2]
    exact ⟨ih.1, rfl⟩

theorem calm_quoted {q : Char} (hq : q = '\'' ∨ q = '"') (cs : List Char) :
    Calm (q :: Text.double q cs ++ [q]) := by
  obtain ⟨hquote, hcount⟩ := scan_double hq cs
  have hopen : openQuote none q = some q := if_pos hq
  refine ⟨?_, ?_⟩
  · rw [List.cons_append, quoteAfter, List.foldl_cons, hopen]
    change quoteAfter (some q) (Text.double q cs ++ [q]) = none
    rw [quoteAfter_append, hquote]
    exact if_pos rfl
  · rw [List.cons_append, countFrom, hopen, countFrom_append, hquote, hcount]
    simp [quote_ne_mark hq, countFrom]

theorem calm_of_isIdentifier {cs : List Char} (h : IsIdentifier cs) : Calm cs := by
  cases h with
  | star => exact calm_of_plain (by decide)
  | quoted hb =>
    obtain ⟨hq, hn⟩ := scan_doubled hb
    refine ⟨?_, ?_⟩
    · change quoteAfter (some quoteMark) (_ ++ [quoteMark]) = none
      rw [quoteAfter_append, hq]
      rfl
    · change 0 + countFrom (some quoteMark) (_ ++ [quoteMark]) = 0
      rw [countFrom_append, hq, hn]
      rfl

end Placeholder

end SqlBuilder
