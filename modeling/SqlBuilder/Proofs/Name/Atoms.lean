import Mathlib.Algebra.Ring.Parity
import SqlBuilder.Proofs.Name.Splitting

/-!
Texts and their atoms. Main statement: the atoms of a text are the one way to cut it into parts such that every
part but the last closes its quotes and every dot inside of a part stands where quotes are open.
-/

namespace SqlBuilder.Name

/-- Quotes are open after an odd number of them, wherever they stand. -/
theorem quotedAfter_eq_true_iff {cs : List Char} : quotedAfter false cs = true ↔ Odd (cs.count quoteMark) := by
  induction cs with
  | nil => simp [quotedAfter]
  | cons c cs ih =>
    by_cases hc : c = quoteMark
    · have hopen : quotedAfter true cs = !quotedAfter false cs := quotedAfter_not false cs
      rw [hc, quotedAfter, if_pos rfl, Bool.not_false, hopen, List.count_cons_self, Nat.odd_add_one, ← ih]
      simp
    · rw [quotedAfter, if_neg hc, List.count_cons_of_ne hc, ih]

theorem quotedAfter_eq_false_iff {cs : List Char} : quotedAfter false cs = false ↔ Even (cs.count quoteMark) := by
  rw [← Nat.not_odd_iff_even, ← quotedAfter_eq_true_iff, Bool.not_eq_true]

/-! ### Atoms as texts -/

/-- Parts between which a text may be cut at dots: one at least, none but the last with its quotes open at the end,
and no dot in any of them where quotes are closed. -/
structure AreParts (parts : List String) : Prop where
  nonempty : parts ≠ []
  closed : ∀ part ∈ parts.dropLast, Even (part.toList.count quoteMark)
  undotted : ∀ part ∈ parts, ∀ before after : List Char, part.toList = before ++ '.' :: after →
    Odd (before.count quoteMark)

theorem areParts_iff {parts : List String} : AreParts parts ↔ AreAtoms false (parts.map String.toList) := by
  have hdots : ∀ part : String, DotsQuoted false part.toList ↔
      ∀ before after : List Char, part.toList = before ++ '.' :: after → Odd (before.count quoteMark) := by
    intro part
    simp only [DotsQuoted, quotedAfter_eq_true_iff]
  simp only [areAtoms_iff, ← List.map_dropLast, List.forall_mem_map, quotedAfter_eq_false_iff, hdots, ne_eq,
    List.map_eq_nil_iff]
  exact ⟨fun h => ⟨h.nonempty, h.closed, h.undotted⟩, fun h => ⟨h.1, h.2.1, h.2.2⟩⟩

theorem atoms_eq_iff_splitAtoms {reference : String} {parts : List String} :
    atoms reference = parts ↔ splitAtoms false reference.toList = parts.map String.toList := by
  constructor
  · rintro rfl
    simp [atoms, Function.comp_def]
  · intro h
    simp [atoms, h, Function.comp_def]

/-- Joined by dots, the atoms of a text make the text again, and parts that are joined are found again as atoms. -/
theorem atoms_eq_iff_joined (reference : String) (parts : List String) :
    atoms reference = parts ↔ AreParts parts ∧ String.intercalate "." parts = reference := by
  rw [atoms_eq_iff_splitAtoms, splitAtoms_eq_iff, areParts_iff, ← String.toList_inj, String.toList_intercalate]
  rfl

example : atoms "db.\"a.b\".c" = ["db", "\"a.b\"", "c"] ∧ atoms ".\"a." = ["", "\"a."] := by decide

end SqlBuilder.Name
