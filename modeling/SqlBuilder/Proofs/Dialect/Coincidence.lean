import SqlBuilder.Proofs.Dialect.Repetition

/-!
Names that are written alike. Main statement: what is written for two references is the same exactly if they
have as many atoms and each identifier of the one is kept under the same name as that of the other.
-/

namespace SqlBuilder

open Name

namespace Name

theorem encloseChars_inj {xs ys : List Char} : encloseChars xs = encloseChars ys ↔ xs = ys := by
  refine ⟨fun h => ?_, fun h => by rw [h]⟩
  rw [← unquoteChars_encloseChars xs, h, unquoteChars_encloseChars]

theorem isUpperClosed_star : Text.isUpperClosed ['*'] = true := by
  decide +kernel

end Name

namespace Dialect

variable {dialect : Dialect}

/-! ### Identifiers -/

theorem stored_eq_star_iff {cs : List Char} : dialect.stored cs = star ↔ cs = star := by
  refine ⟨fun h => ?_, fun h => by rw [h, stored_star]⟩
  match dialect with
  | .ansi _ => exact h
  | .snowflake false _ => exact h
  | .snowflake true _ =>
    rw [stored] at h
    split at h
    · exact h
    · obtain ⟨c, cs, rfl⟩ := List.exists_cons_of_ne_nil (l := cs) (by rintro rfl; cases h)
      obtain ⟨rfl, hc⟩ := upperChars_eq_singleton h
      obtain rfl := List.mem_singleton.mp (Text.mem_of_upperChar isUpperClosed_star List.mem_cons_self hc)
      rfl

/-- A name is written between quotes, with the quotes doubled in what is kept of it. -/
theorem identifierText_eq_encloseChars {cs : List Char} (hstar : cs ≠ star) (hquoted : WellQuoted cs) :
    dialect.identifierText cs = encloseChars (dialect.keptName cs) := by
  cases hq : isQuotedChars cs with
  | true =>
    rw [identifierText_of_quoted hq, keptName, stored_of_quoted hq, encloseChars_unquoteChars hq hquoted]
  | false =>
    have hstored : isQuotedChars (dialect.stored cs) = false := by rw [isQuotedChars_stored, hq]
    rw [keptName, unquoteChars_of_not_quoted hstored, identifierText, quoteChars,
      if_neg (by simp [stored_eq_star_iff, hstar, hstored])]

theorem identifierText_eq_star_iff {cs : List Char} : dialect.identifierText cs = star ↔ cs = star := by
  refine ⟨fun h => ?_, fun h => by rw [h, identifierText_star]⟩
  by_contra hstar
  by_cases hquoted : WellQuoted cs
  · rw [identifierText_eq_encloseChars hstar hquoted] at h
    cases (List.cons.inj h).1
  · rw [identifierText_of_not_wellQuoted dialect hquoted] at h
    exact hstar h

/-- Given in the same way, or both well quoted or not quoted at all and kept under the same name. -/
def SameIdentifier (dialect : Dialect) (x y : List Char) : Prop :=
  x = y ∨ (x ≠ star ∧ y ≠ star ∧ WellQuoted x ∧ WellQuoted y ∧ dialect.keptName x = dialect.keptName y)

theorem identifierText_eq_iff {x y : List Char} :
    dialect.identifierText x = dialect.identifierText y ↔ dialect.SameIdentifier x y := by
  constructor
  · intro h
    by_cases hx : x = star
    · rw [hx, identifierText_star, eq_comm, identifierText_eq_star_iff] at h
      exact .inl (hx.trans h.symm)
    by_cases hy : y = star
    · rw [hy, identifierText_star, identifierText_eq_star_iff] at h
      exact absurd h hx
    have hboth : WellQuoted x ↔ WellQuoted y := by
      rw [← isIdentifier_identifierText_iff dialect x, h, isIdentifier_identifierText_iff]
    by_cases hquoted : WellQuoted x
    · have hother := hboth.mp hquoted
      rw [identifierText_eq_encloseChars hx hquoted, identifierText_eq_encloseChars hy hother,
        encloseChars_inj] at h
      exact .inr ⟨hx, hy, hquoted, hother, h⟩
    · rw [identifierText_of_not_wellQuoted dialect hquoted,
        identifierText_of_not_wellQuoted dialect (mt hboth.mpr hquoted)] at h
      exact .inl h
  · rintro (rfl | ⟨hx, hy, hquoted, hother, hkept⟩)
    · rfl
    · rw [identifierText_eq_encloseChars hx hquoted, identifierText_eq_encloseChars hy hother, hkept]

/-! ### References -/

/-- The same identifiers in the same places. -/
structure SameReference (dialect : Dialect) (a b : Reference) : Prop where
  atoms : List.Forall₂ dialect.SameIdentifier a.atoms b.atoms
  aliases : Option.Rel dialect.SameIdentifier a.aliasName b.aliasName

theorem map_identifierText_eq_iff {a b : Reference} :
    a.map dialect.identifierText = b.map dialect.identifierText ↔ dialect.SameReference a b := by
  have hatoms : a.atoms.map dialect.identifierText = b.atoms.map dialect.identifierText ↔
      List.Forall₂ dialect.SameIdentifier a.atoms b.atoms := by
    rw [← List.forall₂_eq_eq_eq, List.forall₂_map_left_iff, List.forall₂_map_right_iff]
    simp only [identifierText_eq_iff]
  have haliases : a.aliasName.map dialect.identifierText = b.aliasName.map dialect.identifierText ↔
      Option.Rel dialect.SameIdentifier a.aliasName b.aliasName := by
    cases a.aliasName <;> cases b.aliasName <;> simp [identifierText_eq_iff]
  rw [Reference.map, Reference.map, Reference.mk.injEq, hatoms, haliases]
  exact ⟨fun h => ⟨h.1, h.2⟩, fun h => ⟨h.atoms, h.aliases⟩⟩

/-- Two names are written alike exactly if they are the same reference. -/
theorem text_written_eq_iff {a b : String} :
    (dialect.written a).text = (dialect.written b).text ↔
      dialect.SameReference (Reference.parse a.toList) (Reference.parse b.toList) := by
  rw [← map_identifierText_eq_iff, ← String.toList_inj, written, written]
  constructor
  · intro h
    rw [← parse_referenceSql, h, parse_referenceSql]
  · intro h
    rw [spelled_map, h, spelled_map]

end Dialect

end SqlBuilder
