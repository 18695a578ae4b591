import SqlBuilder.Proofs.Name.Quoting

/-!
Names put between quotes and taken out again. Main statement: each undoes the other, but for the star, which is
never quoted, and for names that look quoted already, which are not quoted again.
-/

namespace SqlBuilder

namespace Text

theorem undouble_cons_of_ne {c d : Char} (h : d ≠ c) (cs : List Char) :
    undouble c (d :: cs) = d :: undouble c cs := by
  cases cs with
  | nil => rfl
  | cons b cs => simp [undouble, h]

theorem undouble_pair (c : Char) (cs : List Char) : undouble c (c :: c :: cs) = c :: undouble c cs := by
  simp [undouble]

theorem undouble_double (c : Char) (cs : List Char) : undouble c (double c cs) = cs := by
  induction cs with
  | nil => rfl
  | cons d cs ih =>
    by_cases hd : d = c
    · rw [hd, double_cons_self, undouble_pair, ih]
    · rw [double_cons_of_ne hd, undouble_cons_of_ne hd, ih]

theorem undouble_sublist (c : Char) (cs : List Char) : (undouble c cs).Sublist cs := by
  fun_induction undouble c cs with
  | case1 a b rest hpair ih =>
    rw [hpair.1]
    exact (ih.cons b).cons_cons c
  | case2 a b rest _ ih => exact ih.cons_cons a
  | case3 cs _ => exact List.Sublist.refl cs

end Text

namespace Name

theorem Doubled.double_undouble {cs : List Char} (h : Doubled cs) :
    Text.double quoteMark (Text.undouble quoteMark cs) = cs := by
  induction h with
  | nil => rfl
  | other hc _ ih => rw [Text.undouble_cons_of_ne hc, Text.double_cons_of_ne hc, ih]
  | pair _ ih => rw [Text.undouble_pair, Text.double_cons_self, ih]

theorem unquoteChars_of_not_quoted {cs : List Char} (h : isQuotedChars cs = false) :
    unquoteChars cs = cs := by
  simp [unquoteChars, h]

theorem unquoteChars_encloseChars (cs : List Char) : unquoteChars (encloseChars cs) = cs := by
  have hquoted : isQuotedChars (encloseChars cs) = true := isQuotedChars_enclose _
  have hbody : body (encloseChars cs) = Text.double quoteMark cs := body_enclose _
  rw [unquoteChars, if_pos hquoted, hbody, Text.undouble_double]

theorem encloseChars_unquoteChars {cs : List Char} (hquoted : isQuotedChars cs = true) (h : WellQuoted cs) :
    encloseChars (unquoteChars cs) = cs := by
  rw [unquoteChars, if_pos hquoted, encloseChars, (h hquoted).double_undouble, ← isQuotedChars_iff.mp hquoted]

/-- The quotes around a name are lost, and none comes in between. -/
theorem unquoteChars_ne_of_quoted {cs : List Char} (h : isQuotedChars cs = true) : unquoteChars cs ≠ cs := by
  intro hsame
  have hle : (unquoteChars cs).length ≤ (body cs).length := by
    rw [unquoteChars, if_pos h]
    exact (Text.undouble_sublist quoteMark (body cs)).length_le
  have hlength := congrArg List.length (isQuotedChars_iff.mp h)
  simp only [List.length_append, List.length_cons, List.length_nil] at hlength
  rw [hsame] at hle
  omega

/-- What was not quoted comes back, and what was quoted already loses its quotes. -/
theorem unquoteChars_quoteChars (cs : List Char) : unquoteChars (quoteChars cs) = unquoteChars cs := by
  by_cases h : Settled cs
  · rw [quoteChars_of_settled h]
  · have hquoted : isQuotedChars cs = false := by simpa using (not_or.mp h).2
    rw [quoteChars_of_not_settled h, unquoteChars_encloseChars, unquoteChars_of_not_quoted hquoted]

theorem quoteChars_quoteChars (cs : List Char) : quoteChars (quoteChars cs) = quoteChars cs :=
  quoteChars_of_settled (settled_quoteChars cs)

/-- Quoting puts a name between quotes from which it is found again, unless the name is settled. -/
theorem unquote_quoteChars_iff (cs : List Char) :
    unquoteChars (quoteChars cs) = cs ∧ isQuotedChars (quoteChars cs) = true ↔ ¬ Settled cs := by
  by_cases h : Settled cs
  · rw [quoteChars_of_settled h, iff_false_right (not_not_intro h)]
    rintro ⟨hsame, hquoted⟩
    exact unquoteChars_ne_of_quoted hquoted hsame
  · rw [quoteChars_of_not_settled h, iff_true_right h]
    exact ⟨unquoteChars_encloseChars cs, isQuotedChars_enclose _⟩

/-- A quoted name is quoted again as it was, unless what stands between its quotes is settled. -/
theorem quote_unquoteChars_iff {cs : List Char} (hquoted : isQuotedChars cs = true) (h : WellQuoted cs) :
    quoteChars (unquoteChars cs) = cs ↔ ¬ Settled (unquoteChars cs) := by
  by_cases hname : Settled (unquoteChars cs)
  · rw [quoteChars_of_settled hname, iff_false_right (not_not_intro hname)]
    exact unquoteChars_ne_of_quoted hquoted
  · rw [quoteChars_of_not_settled hname, iff_true_right hname]
    exact encloseChars_unquoteChars hquoted h

/-! ### Names as texts -/

/-- Starts with a quote and ends with another one. -/
def Enclosed (name : String) : Prop :=
  ∃ inner : String, name = "\"" ++ inner ++ "\""

/-- One quoted identifier: between the first and the last quote, quotes stand in pairs. -/
def IsQuotedName (name : String) : Prop :=
  ∃ inner : String, Doubled inner.toList ∧ name = "\"" ++ inner ++ "\""

theorem toList_enclosed (inner : String) :
    ("\"" ++ inner ++ "\"").toList = quoteMark :: inner.toList ++ [quoteMark] := by
  simp [quoteMark]

theorem enclosed_iff {name : String} : Enclosed name ↔ isQuotedChars name.toList = true := by
  constructor
  · rintro ⟨inner, rfl⟩
    rw [toList_enclosed]
    exact isQuotedChars_enclose _
  · intro h
    refine ⟨String.ofList (body name.toList), ?_⟩
    rw [← String.toList_inj, toList_enclosed, String.toList_ofList]
    exact isQuotedChars_iff.mp h

theorem settled_toList_iff {name : String} : Settled name.toList ↔ name = "*" ∨ Enclosed name := by
  rw [Settled, enclosed_iff, ← String.toList_inj]
  rfl

theorem IsQuotedName.wellQuoted {name : String} (h : IsQuotedName name) :
    isQuotedChars name.toList = true ∧ WellQuoted name.toList := by
  obtain ⟨inner, hinner, rfl⟩ := h
  rw [toList_enclosed]
  refine ⟨isQuotedChars_enclose _, fun _ => ?_⟩
  rwa [body_enclose]

theorem toList_quote (name : String) : (quote name).toList = quoteChars name.toList :=
  String.toList_ofList

theorem toList_unquote (name : String) : (unquote name).toList = unquoteChars name.toList :=
  String.toList_ofList

/-- A name is found again between its quotes exactly if it is neither the star nor between quotes itself, a quoted
name is written again exactly if that holds of the name in it, and quoting twice is quoting once. -/
theorem quote_unquote_inverse :
    (∀ name, unquote (quote name) = name ∧ isQuoted (quote name) = true ↔ name ≠ "*" ∧ ¬ Enclosed name) ∧
      (∀ name, IsQuotedName name →
        (quote (unquote name) = name ↔ unquote name ≠ "*" ∧ ¬ Enclosed (unquote name))) ∧
      ∀ name, quote (quote name) = quote name := by
  refine ⟨fun name => ?_, fun name hname => ?_, fun name => ?_⟩
  · rw [← not_or, ← settled_toList_iff, ← unquote_quoteChars_iff, isQuoted, ← String.toList_inj,
      toList_unquote, toList_quote]
  · obtain ⟨hquoted, hwell⟩ := hname.wellQuoted
    rw [← not_or, ← settled_toList_iff, toList_unquote, ← quote_unquoteChars_iff hquoted hwell,
      ← String.toList_inj, toList_quote, toList_unquote]
  · rw [← String.toList_inj, toList_quote, toList_quote, quoteChars_quoteChars]

theorem quote_unquote_inverse_paired :
    let written := "\"\"\"say \"\"hi\"\"!\""
    IsQuotedName written ∧ unquote written = "\"say \"hi\"!" ∧ quote (unquote written) = written := by
  intro written
  have hinner : Doubled "\"\"say \"\"hi\"\"!".toList := doubled_double "\"say \"hi\"!".toList
  have hwritten : IsQuotedName written := ⟨_, hinner, by decide⟩
  have hname : unquote written = "\"say \"hi\"!" := by decide
  refine ⟨hwritten, hname, (quote_unquote_inverse.2.1 written hwritten).mpr ?_⟩
  rw [hname, enclosed_iff]
  decide

end Name

end SqlBuilder
