import SqlBuilder.Name.Quoting

/-!
Identifiers in SQL: what stands between the quotes holds every quote twice. Main statement: quoting gives
an identifier except for what only looks quoted, with a single quote somewhere between its ends.
-/

namespace SqlBuilder.Text

theorem double_cons_self (c : Char) (cs : List Char) : double c (c :: cs) = c :: c :: double c cs := by
  simp [double]

theorem double_cons_of_ne {c d : Char} (h : d ≠ c) (cs : List Char) : double c (d :: cs) = d :: double c cs := by
  simp [double, h]

end SqlBuilder.Text

namespace SqlBuilder.Name

/-- Every quote is followed by another one that belongs to it. -/
inductive Doubled : List Char → Prop
  | nil : Doubled []
  | other {c : Char} {cs : List Char} : c ≠ quoteMark → Doubled cs → Doubled (c :: cs)
  | pair {cs : List Char} : Doubled cs → Doubled (quoteMark :: quoteMark :: cs)

/-- The star, or one quoted identifier. -/
inductive IsIdentifier : List Char → Prop
  | star : IsIdentifier ['*']
  | quoted {body : List Char} : Doubled body → IsIdentifier (quoteMark :: body ++ [quoteMark])

/-- What starts and ends with a quote is one identifier. -/
def WellQuoted (cs : List Char) : Prop :=
  isQuotedChars cs = true → Doubled (body cs)

/-- Whether the text is inside quotes after these characters, given whether it was before. -/
def quotedAfter (quoted : Bool) : List Char → Bool
  | [] => quoted
  | c :: cs => quotedAfter (if c = quoteMark then !quoted else quoted) cs

theorem Doubled.append {xs ys : List Char} (hx : Doubled xs) (hy : Doubled ys) : Doubled (xs ++ ys) := by
  induction hx with
  | nil => exact hy
  | other hc _ ih => exact .other hc ih
  | pair _ ih => exact .pair ih

theorem doubled_double (cs : List Char) : Doubled (Text.double quoteMark cs) := by
  induction cs with
  | nil => exact .nil
  | cons c cs ih =>
    by_cases hc : c = quoteMark
    · rw [hc, Text.double_cons_self]
      exact .pair ih
    · rw [Text.double_cons_of_ne hc]
      exact .other hc ih

/-- Up to a quote, a text in which quotes stand twice is one as well, or it lacks the second of a pair. -/
theorem Doubled.of_append_quote {xs ys : List Char} (h : Doubled (xs ++ quoteMark :: ys)) :
    Doubled xs ∨ ∃ zs, xs = zs ++ [quoteMark] ∧ Doubled zs := by
  generalize hw : xs ++ quoteMark :: ys = ws at h
  induction h generalizing xs with
  | nil => simp at hw
  | @other c cs hc _ ih =>
    cases xs with
    | nil => exact .inl .nil
    | cons x xs =>
      obtain ⟨rfl, tails⟩ := List.cons.inj hw
      rcases ih tails with hx | ⟨zs, rfl, hz⟩
      · exact .inl (.other hc hx)
      · exact .inr ⟨x :: zs, rfl, .other hc hz⟩
  | @pair cs _ ih =>
    match xs, hw with
    | [], _ => exact .inl .nil
    | [x], hw =>
      obtain ⟨rfl, _⟩ := List.cons.inj hw
      exact .inr ⟨[], rfl, .nil⟩
    | x :: y :: xs, hw =>
      obtain ⟨rfl, tails⟩ := List.cons.inj hw
      obtain ⟨rfl, rests⟩ := List.cons.inj tails
      rcases ih rests with hx | ⟨zs, rfl, hz⟩
      · exact .inl (.pair hx)
      · exact .inr ⟨quoteMark :: quoteMark :: zs, rfl, .pair hz⟩

theorem Doubled.of_append {xs ys : List Char} (hx : Doubled xs) (h : Doubled (xs ++ ys)) : Doubled ys := by
  induction hx with
  | nil => exact h
  | @other c cs hc _ ih =>
    generalize hw : c :: cs ++ ys = ws at h
    cases h with
    | nil => simp at hw
    | other _ hrest =>
      obtain ⟨-, rfl⟩ := List.cons.inj hw
      exact ih hrest
    | pair _ => exact absurd (List.cons.inj hw).1 hc
  | @pair cs _ ih =>
    generalize hw : quoteMark :: quoteMark :: cs ++ ys = ws at h
    cases h with
    | nil => simp at hw
    | other hc _ => exact absurd (List.cons.inj hw).1.symm hc
    | pair hrest =>
      obtain ⟨-, rfl⟩ := List.cons.inj (List.cons.inj hw).2
      exact ih hrest

/-- A quote with none after it is the second of its pair. -/
theorem Doubled.quote_before {xs ys : List Char} {c : Char} (h : Doubled (xs ++ quoteMark :: c :: ys))
    (hc : c ≠ quoteMark) : ∃ zs, xs = zs ++ [quoteMark] := by
  rcases h.of_append_quote with hx | ⟨zs, hzs, -⟩
  · cases hx.of_append h with
    | other hquote _ => exact absurd rfl hquote
    | pair _ => exact absurd rfl hc
  · exact ⟨zs, hzs⟩

/-- The closing quote is the first that has none after it. -/
theorem Doubled.unique_end {xs ys rs ss : List Char} (hx : Doubled xs) (hy : Doubled ys)
    (hr : rs.head? ≠ some quoteMark) (hs : ss.head? ≠ some quoteMark)
    (same : xs ++ quoteMark :: rs = ys ++ quoteMark :: ss) : xs = ys ∧ rs = ss := by
  induction hx generalizing ys with
  | nil =>
    cases hy with
    | nil => exact ⟨rfl, (List.cons.inj same).2⟩
    | other hc _ => exact absurd (List.cons.inj same).1.symm hc
    | pair _ =>
      have hq := (List.cons.inj same).2
      exact absurd (by rw [hq]; rfl) hr
  | other hc _ ih =>
    cases hy with
    | nil => exact absurd (List.cons.inj same).1 hc
    | other _ hy =>
      obtain ⟨rfl, tails⟩ := List.cons.inj same
      obtain ⟨rfl, rest⟩ := ih hy tails
      exact ⟨rfl, rest⟩
    | pair _ => exact absurd (List.cons.inj same).1 hc
  | pair _ ih =>
    cases hy with
    | nil =>
      have hq := (List.cons.inj same).2
      exact absurd (by rw [← hq]; rfl) hs
    | other hc _ => exact absurd (List.cons.inj same).1.symm hc
    | pair hy =>
      have tails := (List.cons.inj (List.cons.inj same).2).2
      obtain ⟨rfl, rest⟩ := ih hy tails
      exact ⟨rfl, rest⟩

/-! ### Inside and outside quotes -/

theorem quotedAfter_append (quoted : Bool) (xs ys : List Char) :
    quotedAfter quoted (xs ++ ys) = quotedAfter (quotedAfter quoted xs) ys := by
  induction xs generalizing quoted with
  | nil => rfl
  | cons x xs ih => exact ih _

theorem quotedAfter_not (quoted : Bool) (cs : List Char) :
    quotedAfter (!quoted) cs = !quotedAfter quoted cs := by
  induction cs generalizing quoted with
  | nil => rfl
  | cons c cs ih =>
    rw [quotedAfter, quotedAfter, ← ih]
    split <;> rfl

theorem Doubled.quotedAfter {cs : List Char} (h : Doubled cs) (quoted : Bool) :
    Name.quotedAfter quoted cs = quoted := by
  induction h with
  | nil => rfl
  | other hc _ ih => simpa [Name.quotedAfter, hc] using ih
  | pair _ ih => simpa [Name.quotedAfter] using ih

/-! ### Quoting -/

theorem isQuotedChars_enclose (cs : List Char) :
    isQuotedChars (quoteMark :: cs ++ [quoteMark]) = true := by
  have hlast : (quoteMark :: cs ++ [quoteMark]).getLast? = some quoteMark := List.getLast?_concat
  rw [isQuotedChars, hlast]
  simp

theorem isQuotedChars_iff {cs : List Char} :
    isQuotedChars cs = true ↔ cs = quoteMark :: body cs ++ [quoteMark] := by
  constructor
  · intro h
    simp only [isQuotedChars, Bool.and_eq_true, decide_eq_true_eq, beq_iff_eq] at h
    obtain ⟨⟨hlen, hhead⟩, hlast⟩ := h
    obtain ⟨c, rest, rfl⟩ := List.exists_cons_of_length_pos (by omega : 0 < cs.length)
    obtain rfl : c = quoteMark := by simpa using hhead
    have hne : rest ≠ [] := by
      rintro rfl
      simp at hlen
    have hrest : rest.getLast hne = quoteMark := by
      rw [List.getLast?_cons, List.getLast?_eq_some_getLast hne] at hlast
      simpa using hlast
    exact congrArg (quoteMark :: ·) (hrest ▸ (List.dropLast_concat_getLast hne).symm)
  · intro h
    rw [h]
    exact isQuotedChars_enclose _

@[simp] theorem body_enclose (cs : List Char) : body (quoteMark :: cs ++ [quoteMark]) = cs := by
  simp [body]

theorem wellQuoted_of_not_quoted {cs : List Char} (h : isQuotedChars cs = false) : WellQuoted cs := by
  intro hq
  rw [h] at hq
  cases hq

theorem isIdentifier_enclose_iff {cs : List Char} :
    IsIdentifier (quoteMark :: cs ++ [quoteMark]) ↔ Doubled cs := by
  constructor
  · intro h
    generalize hw : quoteMark :: cs ++ [quoteMark] = ws at h
    cases h with
    | star => simp [quoteMark] at hw
    | quoted hb =>
      have same := congrArg body hw
      rw [body_enclose, body_enclose] at same
      rwa [same]
  · exact .quoted

/-- Quoting gives one identifier, unless what starts and ends with a quote is none. -/
theorem isIdentifier_quoteChars_iff (cs : List Char) : IsIdentifier (quoteChars cs) ↔ WellQuoted cs := by
  by_cases hs : cs = star
  · have hq : isQuotedChars cs = false := by rw [hs]; decide
    rw [quoteChars, if_pos (.inl hs), hs]
    exact ⟨fun _ => wellQuoted_of_not_quoted (hs ▸ hq), fun _ => .star⟩
  by_cases hq : isQuotedChars cs = true
  · rw [quoteChars, if_pos (.inr hq)]
    have hb : IsIdentifier cs ↔ Doubled (body cs) := by
      rw [← isIdentifier_enclose_iff, ← isQuotedChars_iff.mp hq]
    rw [hb]
    exact ⟨fun h _ => h, fun h => h hq⟩
  · rw [quoteChars, if_neg (by simp [hs, hq])]
    have hc : IsIdentifier (encloseChars cs) := .quoted (doubled_double cs)
    exact ⟨fun _ => wellQuoted_of_not_quoted (by simpa using hq), fun _ => hc⟩

theorem quoteChars_of_quoted {cs : List Char} (h : isQuotedChars cs = true) : quoteChars cs = cs :=
  if_pos (.inr h)

/-- The star, or what starts and ends with a quote. -/
def Settled (cs : List Char) : Prop :=
  cs = star ∨ isQuotedChars cs = true

theorem settled_encloseChars (cs : List Char) : Settled (encloseChars cs) :=
  .inr (isQuotedChars_enclose _)

theorem quoteChars_of_settled {cs : List Char} (h : Settled cs) : quoteChars cs = cs :=
  if_pos h

theorem quoteChars_of_not_settled {cs : List Char} (h : ¬ Settled cs) : quoteChars cs = encloseChars cs :=
  if_neg h

theorem settled_quoteChars (cs : List Char) : Settled (quoteChars cs) := by
  rw [quoteChars]
  split
  · assumption
  · exact settled_encloseChars cs

end SqlBuilder.Name
