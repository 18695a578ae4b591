import SqlBuilder.Proofs.Dialect.Coincidence
import SqlBuilder.Proofs.Name.Joining
import SqlBuilder.Proofs.Text.Recasing

/-!
Joined names as they are written. Main statements: different texts joined to one name are written differently,
but for their case where it is folded and for their quotes where there are dots, and one text joined to names that
differ in case is written alike where it is folded.
-/

namespace SqlBuilder.Dialect

open Name

variable {dialect : Dialect}

/-! ### What is left of a text when it is written -/

/-- The text without its case if the dialect folds. -/
def caseless : Dialect → List Char → List Char
  | .snowflake true _, cs => Text.upperChars (Text.lowerChars cs)
  | _, cs => cs

/-- The same without quotes. -/
def reduced (dialect : Dialect) (cs : List Char) : List Char :=
  (dialect.caseless cs).filter (· != quoteMark)

theorem caseless_append (xs ys : List Char) :
    dialect.caseless (xs ++ ys) = dialect.caseless xs ++ dialect.caseless ys := by
  match dialect with
  | .ansi _ => rfl
  | .snowflake false _ => rfl
  | .snowflake true _ => exact Text.upperChars_lowerChars_append xs ys

theorem caseless_stored (cs : List Char) : dialect.caseless (dialect.stored cs) = dialect.caseless cs := by
  match dialect with
  | .ansi _ => rfl
  | .snowflake false _ => rfl
  | .snowflake true _ =>
    rw [stored]
    split
    · rfl
    · exact Text.upperChars_lowerChars_upperChars cs

theorem reduced_append (xs ys : List Char) :
    dialect.reduced (xs ++ ys) = dialect.reduced xs ++ dialect.reduced ys := by
  rw [reduced, caseless_append, List.filter_append, ← reduced, ← reduced]

theorem reduced_quoteMark_cons (cs : List Char) : dialect.reduced (quoteMark :: cs) = dialect.reduced cs := by
  have hmark : dialect.reduced [quoteMark] = [] := by
    match dialect with
    | .ansi _ => rfl
    | .snowflake false _ => rfl
    | .snowflake true _ => rfl
  rw [← List.singleton_append, reduced_append, hmark, List.nil_append]

theorem reduced_double (cs : List Char) : dialect.reduced (Text.double quoteMark cs) = dialect.reduced cs := by
  induction cs with
  | nil => rfl
  | cons c cs ih =>
    by_cases hc : c = quoteMark
    · rw [hc, Text.double_cons_self, reduced_quoteMark_cons, reduced_quoteMark_cons, reduced_quoteMark_cons, ih]
    · rw [Text.double_cons_of_ne hc, ← List.singleton_append, reduced_append, ih, ← reduced_append,
        List.singleton_append]

theorem reduced_encloseChars (cs : List Char) : dialect.reduced (encloseChars cs) = dialect.reduced cs := by
  rw [encloseChars, List.cons_append, reduced_quoteMark_cons, reduced_append, reduced_quoteMark_cons [],
    ← reduced_append, List.append_nil, reduced_double]

theorem reduced_identifierText (cs : List Char) :
    dialect.reduced (dialect.identifierText cs) = dialect.reduced cs := by
  have hquote : ∀ cs, dialect.reduced (quoteChars cs) = dialect.reduced cs := by
    intro cs
    rw [quoteChars]
    split
    · rfl
    · exact reduced_encloseChars cs
  rw [identifierText, hquote, reduced, caseless_stored, ← reduced]

theorem reduced_map_spelled (reference : Reference) :
    dialect.reduced (reference.map dialect.identifierText).spelled = dialect.reduced reference.spelled := by
  have hatoms : ∀ atoms : List (List Char),
      dialect.reduced (List.intercalate ['.'] (atoms.map dialect.identifierText)) =
        dialect.reduced (List.intercalate ['.'] atoms) := by
    intro atoms
    induction atoms with
    | nil => rfl
    | cons atom atoms ih =>
      cases atoms with
      | nil => simp [reduced_identifierText]
      | cons next atoms =>
        rw [List.map_cons, List.map_cons] at *
        rw [List.intercalate_cons_cons, List.intercalate_cons_cons, reduced_append, reduced_append, ih,
          reduced_identifierText, ← reduced_append, ← reduced_append]
  obtain ⟨atoms, aliasName⟩ := reference
  cases aliasName with
  | none => simp [Reference.map, Reference.spelled, hatoms]
  | some name => simp [Reference.map, Reference.spelled, reduced_append, hatoms, reduced_identifierText]

/-! ### Different texts joined to one name -/

/-- The text that is written for a reference. -/
def spelling (dialect : Dialect) (cs : List Char) : List Char :=
  ((Reference.parse cs).map dialect.identifierText).spelled

theorem toList_text_written (name : String) : (dialect.written name).text.toList = dialect.spelling name.toList := by
  rw [written, spelled_map, spelling]

theorem map_parse_of_spelling_eq {xs ys : List Char} (h : dialect.spelling xs = dialect.spelling ys) :
    (Reference.parse xs).map dialect.identifierText = (Reference.parse ys).map dialect.identifierText := by
  rw [spelling, spelling, ← spelled_map, ← spelled_map] at h
  rw [← parse_referenceSql, h, parse_referenceSql]

theorem reduced_of_joined_eq {front rest rest' : List Char}
    (h : dialect.reduced (front ++ '_' :: rest) = dialect.reduced (front ++ '_' :: rest')) :
    dialect.reduced rest = dialect.reduced rest' := by
  rw [List.append_cons front _ rest, List.append_cons front _ rest', reduced_append _ rest,
    reduced_append _ rest'] at h
  exact List.append_cancel_left h

theorem caseless_of_joined_eq {front rest rest' : List Char}
    (h : dialect.caseless (front ++ '_' :: rest) = dialect.caseless (front ++ '_' :: rest')) :
    dialect.caseless rest = dialect.caseless rest' := by
  rw [List.append_cons front _ rest, List.append_cons front _ rest', caseless_append _ rest,
    caseless_append _ rest'] at h
  exact List.append_cancel_left h

/-- Case and quotes apart, what is joined to a reference can be told from what is written. -/
theorem reduced_of_spelling_joined_eq {cs rest rest' : List Char} (hrest : Reference.Ends rest)
    (hrest' : Reference.Ends rest')
    (h : dialect.spelling (cs ++ '_' :: rest) = dialect.spelling (cs ++ '_' :: rest')) :
    dialect.reduced rest = dialect.reduced rest' := by
  obtain ⟨front, hfront⟩ := Reference.spelled_joined cs
  have hreduced := congrArg dialect.reduced h
  rw [spelling, spelling, reduced_map_spelled, reduced_map_spelled, hfront rest hrest,
    hfront rest' hrest'] at hreduced
  exact reduced_of_joined_eq hreduced

theorem stored_of_identifierText_eq {xs ys : List Char} (hx : isQuotedChars xs = false)
    (hy : isQuotedChars ys = false)
    (h : dialect.identifierText xs = dialect.identifierText ys) : dialect.stored xs = dialect.stored ys := by
  have hkept : dialect.keptName xs = dialect.keptName ys := by
    rw [← unquoteChars_identifierText, h, unquoteChars_identifierText]
  rwa [keptName, keptName, unquoteChars_of_not_quoted, unquoteChars_of_not_quoted] at hkept
  · rw [isQuotedChars_stored, hy]
  · rw [isQuotedChars_stored, hx]

theorem identifierText_lastIdentifier (cs : List Char) :
    dialect.identifierText (Reference.parse cs).lastIdentifier =
      ((Reference.parse cs).map dialect.identifierText).lastIdentifier := by
  have hne := (Reference.areAtoms_parse cs).ne_nil
  rw [Reference.lastIdentifier, Reference.lastIdentifier, Reference.map]
  cases (Reference.parse cs).aliasName with
  | some name => rfl
  | none =>
    rw [List.getLast?_map, List.getLast?_eq_some_getLast hne]
    rfl

/-- Where there are no dots outside quotes, the quotes can be told, too. -/
theorem caseless_of_spelling_joined_eq {cs rest rest' : List Char} (hrest : Reference.Ends rest)
    (hrest' : Reference.Ends rest') (hdots : DotsQuoted (quotedAfter false cs) rest)
    (hdots' : DotsQuoted (quotedAfter false cs) rest') (hend : rest.getLast? ≠ some quoteMark)
    (hend' : rest'.getLast? ≠ some quoteMark)
    (h : dialect.spelling (cs ++ '_' :: rest) = dialect.spelling (cs ++ '_' :: rest')) :
    dialect.caseless rest = dialect.caseless rest' := by
  obtain ⟨front, hfront⟩ := Reference.lastIdentifier_joined cs
  have hlast := congrArg Reference.lastIdentifier (map_parse_of_spelling_eq h)
  rw [← identifierText_lastIdentifier, ← identifierText_lastIdentifier, hfront rest hrest hdots,
    hfront rest' hrest' hdots'] at hlast
  have hstored := congrArg dialect.caseless (stored_of_identifierText_eq (isQuotedChars_append_underscore hend)
    (isQuotedChars_append_underscore hend') hlast)
  rw [caseless_stored, caseless_stored] at hstored
  exact caseless_of_joined_eq hstored

/-- A quoted name without a separator is written as it is. -/
theorem spelling_encloseChars {cs : List Char} (h : ¬ HoldsSeparator cs) :
    dialect.spelling (encloseChars cs) = encloseChars cs := by
  have hsplit : splitAtoms false (encloseChars cs) = [cs].map encloseChars := by
    have hjoined := splitAtoms_join_encloseChars (List.cons_ne_nil cs [])
    rwa [List.map_singleton, List.intercalate_singleton] at hjoined
  have hkept := (kept_iff_of_quotedNames hsplit).mpr (.inl (by simpa using h))
  rw [spelling, ← spelled_map]
  exact (text_referenceSql_eq_iff dialect _).mpr hkept

/-! ### One text joined to different names -/

/-- Names that are not quoted are stored alike if they are the same, but for their case where it is folded. -/
theorem eq_or_upperChars_of_stored {folds : Bool} {xs ys : List Char}
    (h : (snowflake folds none).stored xs = (snowflake folds none).stored ys) :
    xs = ys ∨ folds = true ∧ xs.head? ≠ some quoteMark ∧ ys.head? ≠ some quoteMark ∧
      Text.upperChars xs = Text.upperChars ys := by
  match folds with
  | false => exact .inl h
  | true =>
    rw [stored, stored] at h
    split at h <;> split at h
    · exact .inl h
    · next hx hy =>
      rw [h] at hx
      exact absurd (Text.head?_upperChars_quote hx) hy
    · next hx hy =>
      rw [← h] at hy
      exact absurd (Text.head?_upperChars_quote hy) hx
    · next hx hy => exact .inr ⟨rfl, hx, hy, h⟩

/-- Where names are folded, names that are the same in upper case are written alike with the same text behind them. -/
theorem spelling_joined_congr {cs cs' : List Char} (hbegins : Reference.Begins cs) (hbegins' : Reference.Begins cs')
    (hhead : cs.head? ≠ some quoteMark) (hhead' : cs'.head? ≠ some quoteMark)
    (hquoted : quotedAfter false cs = quotedAfter false cs') (hupper : Text.upperChars cs = Text.upperChars cs')
    (rest : List Char) :
    (snowflake true none).spelling (cs ++ '_' :: rest) = (snowflake true none).spelling (cs' ++ '_' :: rest) := by
  obtain ⟨first, back, aliasName, hparse⟩ := Reference.parse_begins (quotedAfter false cs) rest
  have hstored : ∀ {cs : List Char}, cs.head? ≠ some quoteMark →
      (snowflake true none).stored (cs ++ '_' :: first) = Text.upperChars cs ++ Text.upperChars ('_' :: first) := by
    intro cs hhead
    have hjoined : (cs ++ '_' :: first).head? ≠ some quoteMark := by
      cases cs with
      | nil => simp [quoteMark]
      | cons c cs => exact hhead
    rw [stored, if_neg hjoined, Text.upperChars_append]
  have hfirst : (snowflake true none).identifierText (cs ++ '_' :: first) =
      (snowflake true none).identifierText (cs' ++ '_' :: first) := by
    rw [identifierText, identifierText, hstored hhead, hstored hhead', hupper]
  rw [spelling, spelling, hparse cs hbegins rfl, hparse cs' hbegins' hquoted.symm, Reference.map, Reference.map,
    List.map_cons, List.map_cons, hfirst]

end SqlBuilder.Dialect
