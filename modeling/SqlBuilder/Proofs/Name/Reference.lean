import SqlBuilder.Proofs.Name.Separator

/-!
References as SQL reads them. Main statements: an identifier at the front of a reference is read in one
way only, and one that is not closed where it seems to be is never followed by another atom.
-/

namespace SqlBuilder.Name

/-- Identifiers with dots between them, perhaps with an alias behind the last. -/
inductive IsReference : List Char → Prop
  | atom {a : List Char} : IsIdentifier a → IsReference a
  | aliased {a b : List Char} : IsIdentifier a → IsIdentifier b → IsReference (a ++ aliasWord ++ b)
  | dotted {a r : List Char} : IsIdentifier a → IsReference r → IsReference (a ++ '.' :: r)

/-- What may follow an identifier of a reference. -/
inductive Continues : List Char → Prop
  | done : Continues []
  | aliased {b : List Char} : IsIdentifier b → Continues (aliasWord ++ b)
  | dotted {r : List Char} : IsReference r → Continues ('.' :: r)

theorem Continues.head? {cs : List Char} (h : Continues cs) : cs.head? ≠ some quoteMark := by
  cases h <;> simp [aliasWord, quoteMark]

theorem isReference_iff {cs : List Char} :
    IsReference cs ↔ ∃ a rest, IsIdentifier a ∧ Continues rest ∧ cs = a ++ rest := by
  constructor
  · intro h
    cases h with
    | atom ha => exact ⟨cs, [], ha, .done, (List.append_nil cs).symm⟩
    | aliased ha hb => exact ⟨_, _, ha, .aliased hb, List.append_assoc _ _ _⟩
    | dotted ha hr => exact ⟨_, _, ha, .dotted hr, rfl⟩
  · rintro ⟨a, rest, ha, hrest, rfl⟩
    cases hrest with
    | done => rw [List.append_nil]; exact .atom ha
    | aliased hb => rw [← List.append_assoc]; exact .aliased ha hb
    | dotted hr => exact .dotted ha hr

theorem IsIdentifier.unique_end {a b r s : List Char} (ha : IsIdentifier a) (hb : IsIdentifier b)
    (hr : r.head? ≠ some quoteMark) (hs : s.head? ≠ some quoteMark) (same : a ++ r = b ++ s) :
    a = b ∧ r = s := by
  cases ha with
  | star =>
    cases hb with
    | star => exact ⟨rfl, (List.cons.inj same).2⟩
    | quoted _ => exact absurd (List.cons.inj same).1 (by decide)
  | quoted hx =>
    cases hb with
    | star => exact absurd (List.cons.inj same).1 (by decide)
    | quoted hy =>
      have tails := (List.cons.inj same).2
      simp only [List.append_assoc, List.append_eq, List.singleton_append] at tails
      obtain ⟨rfl, rest⟩ := hx.unique_end hy hr hs tails
      exact ⟨rfl, rest⟩

/-- An identifier that does not touch another quote is read off the front. -/
theorem isReference_append_iff {a r : List Char} (ha : IsIdentifier a)
    (hr : r.head? ≠ some quoteMark) : IsReference (a ++ r) ↔ Continues r := by
  rw [isReference_iff]
  constructor
  · rintro ⟨b, rest, hb, hrest, same⟩
    obtain ⟨_, rfl⟩ := ha.unique_end hb hr hrest.head? same
    exact hrest
  · exact fun h => ⟨a, r, ha, h, rfl⟩

theorem continues_dot_iff {r : List Char} : Continues ('.' :: r) ↔ IsReference r := by
  constructor
  · intro h
    generalize hw : '.' :: r = w at h
    cases h with
    | done => simp at hw
    | aliased _ => exact absurd (List.cons.inj hw).1 (by decide)
    | dotted hr => rwa [(List.cons.inj hw).2]
  · exact .dotted

theorem continues_aliasWord_iff {b : List Char} : Continues (aliasWord ++ b) ↔ IsIdentifier b := by
  constructor
  · intro h
    generalize hw : aliasWord ++ b = w at h
    cases h with
    | done => simp [aliasWord] at hw
    | aliased hb => rwa [List.append_cancel_left hw]
    | dotted _ => exact absurd (List.cons.inj hw).1 (by decide)
  · exact .aliased

theorem isReference_dot_iff {a r : List Char} (ha : IsIdentifier a) :
    IsReference (a ++ '.' :: r) ↔ IsReference r := by
  rw [isReference_append_iff ha (by simp [quoteMark]), continues_dot_iff]

theorem isReference_aliasWord_iff {a b : List Char} (ha : IsIdentifier a) :
    IsReference (a ++ (aliasWord ++ b)) ↔ IsIdentifier b := by
  rw [isReference_append_iff ha (by simp [aliasWord, quoteMark]), continues_aliasWord_iff]

/-! ### Quotes in references -/

theorem quotedAfter_enclose (cs : List Char) :
    quotedAfter false (quoteMark :: cs ++ [quoteMark]) = !quotedAfter true cs := by
  simp [quotedAfter, quotedAfter_append]

theorem IsIdentifier.quotedAfter {cs : List Char} (h : IsIdentifier cs) :
    Name.quotedAfter false cs = false := by
  cases h with
  | star => rfl
  | quoted hb => rw [quotedAfter_enclose, hb.quotedAfter]; rfl

theorem dotsQuoted_of_doubled {cs : List Char} (h : Doubled cs) : DotsQuoted true (cs ++ [quoteMark]) := by
  induction h with
  | nil => exact dotsQuoted_cons (fun _ => rfl) (dotsQuoted_nil _)
  | other hc _ ih => exact dotsQuoted_cons (fun _ => rfl) (by rwa [if_neg hc])
  | pair _ ih => exact dotsQuoted_cons (fun _ => rfl) (dotsQuoted_cons (fun h => absurd h (by decide)) ih)

theorem dotsQuoted_of_isIdentifier {cs : List Char} (h : IsIdentifier cs) : DotsQuoted false cs := by
  cases h with
  | star => exact dotsQuoted_cons (fun h => absurd h (by decide)) (dotsQuoted_nil _)
  | quoted hbody => exact dotsQuoted_cons (fun h => absurd h (by decide)) (dotsQuoted_of_doubled hbody)

theorem quotedAfter_dot (quoted : Bool) (cs : List Char) :
    quotedAfter quoted ('.' :: cs) = quotedAfter quoted cs := rfl

theorem quotedAfter_aliasWord (quoted : Bool) (cs : List Char) :
    quotedAfter quoted (aliasWord ++ cs) = quotedAfter quoted cs := rfl

/-- A reference closes all of its quotes. -/
theorem IsReference.quotedAfter {cs : List Char} (h : IsReference cs) :
    Name.quotedAfter false cs = false := by
  induction h with
  | atom ha => exact ha.quotedAfter
  | aliased ha hb =>
    rw [List.append_assoc, quotedAfter_append, ha.quotedAfter, quotedAfter_aliasWord, hb.quotedAfter]
  | dotted ha _ ih => rw [quotedAfter_append, ha.quotedAfter, quotedAfter_dot, ih]

theorem exists_of_not_wellQuoted {a : List Char} (h : ¬ WellQuoted a) :
    ∃ b, a = quoteMark :: b ++ [quoteMark] ∧ ¬ Doubled b := by
  cases hq : isQuotedChars a with
  | false => exact absurd (wellQuoted_of_not_quoted hq) h
  | true => exact ⟨body a, isQuotedChars_iff.mp hq, fun hd => h fun _ => hd⟩

/-- Where a reference goes on after a closing quote, the next quote is behind a dot or an alias word. -/
theorem Continues.before_quote {mid rest : List Char} (h : Continues (mid ++ quoteMark :: rest)) :
    (∃ tail, mid = aliasWord ++ tail) ∨ ∃ tail, mid = '.' :: tail := by
  generalize hw : mid ++ quoteMark :: rest = w at h
  cases h with
  | done => simp at hw
  | aliased _ =>
    rcases List.append_eq_append_iff.mp hw with ⟨tail, hword, hq⟩ | ⟨tail, hmid, _⟩
    · cases tail with
      | nil => exact .inl ⟨[], by rw [hword, List.append_nil, List.append_nil]⟩
      | cons c tail =>
        have hmem : c ∈ aliasWord := by rw [hword]; simp
        rw [← (List.cons.inj hq).1] at hmem
        exact absurd hmem (by decide)
    · exact .inl ⟨tail, hmid⟩
  | dotted _ =>
    cases mid with
    | nil => exact absurd (List.cons.inj hw).1 (by decide)
    | cons c mid => exact .inr ⟨mid, by rw [(List.cons.inj hw).1]⟩

/-- An atom that looks quoted and is not stays open to its end, and what follows has to close it. -/
theorem IsReference.open_of_not_wellQuoted {a rest : List Char} (h : IsReference (a ++ rest))
    (hbad : ¬ WellQuoted a) (hdots : DotsQuoted false a) (hword : ¬ aliasWord <:+: a) :
    Name.quotedAfter false a = true ∧ quoteMark ∈ rest := by
  obtain ⟨b, rfl, hb⟩ := exists_of_not_wellQuoted hbad
  obtain ⟨a, after, ha, hafter, same⟩ := isReference_iff.mp h
  cases ha with
  | star => exact absurd (List.cons.inj same).1 (by decide)
  | @quoted x hx =>
    have tails := (List.cons.inj same).2
    simp only [List.append_assoc, List.append_eq, List.singleton_append] at tails
    rcases List.append_eq_append_iff.mp tails with ⟨mid, hxb, hmid⟩ | ⟨mid, hbx, hmid⟩
    · cases mid with
      | nil => exact absurd (by simpa [hxb] using hx) hb
      | cons c mid =>
        obtain ⟨rfl, hrest⟩ := List.cons.inj hmid
        rw [hxb] at hx
        rcases hx.of_append_quote with hd | ⟨zs, rfl, hz⟩
        · exact absurd hd hb
        · refine ⟨?_, by rw [hrest]; simp⟩
          rw [quotedAfter_enclose, quotedAfter_append, hz.quotedAfter]
          rfl
    · cases mid with
      | nil => exact absurd hx (by simpa [hbx] using hb)
      | cons c mid =>
        -- the reference closes its identifier inside the atom, so that the rest of the atom goes on
        obtain ⟨rfl, hrest⟩ := List.cons.inj hmid
        rw [hrest] at hafter
        rcases hafter.before_quote with ⟨tail, rfl⟩ | ⟨tail, rfl⟩
        · refine absurd ⟨quoteMark :: x ++ [quoteMark], tail ++ [quoteMark], ?_⟩ hword
          simp [hbx]
        · have hdot := hdots (quoteMark :: x ++ [quoteMark]) (tail ++ [quoteMark]) (by simp [hbx])
          rw [quotedAfter_enclose, hx.quotedAfter] at hdot
          cases hdot

end SqlBuilder.Name
