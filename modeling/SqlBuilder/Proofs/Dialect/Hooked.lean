import SqlBuilder.Proofs.Sql.Outline
import SqlBuilder.Proofs.Value.Reading

/-!
References that a caller's hook writes. Main statement: the hook is called once for each atom that is no star
and once for the alias, and what it answers stands in their places.
-/

namespace SqlBuilder

/-- The identifiers in a name: its atoms but for stars, and its alias. -/
def Name.identifiersIn (name : String) : List String :=
  let reference := Reference.parse name.toList
  (reference.atoms.filter (· ≠ star) ++ reference.aliasName.toList).map String.ofList

namespace Outline

def ofAtom (atom : List Char) : Outline :=
  if atom = Name.star then text "*" else [.identifier (String.ofList atom)]

/-- The star is no identifier, but whatever stands in the place of an alias is one. -/
def ofReference (reference : Name.Reference) : Outline :=
  separated "." (reference.atoms.map ofAtom) ++
    match reference.aliasName with
    | none => []
    | some name => text " as " ++ [.identifier (String.ofList name)]

def ofName (name : String) : Outline :=
  ofReference (Name.Reference.parse name.toList)

@[simp] theorem identifiers_ofName (name : String) : identifiers (ofName name) = Name.identifiersIn name := by
  rw [ofName, Name.identifiersIn]
  generalize Name.Reference.parse name.toList = reference
  have hatoms : ∀ atoms : List (List Char),
      (atoms.map ofAtom).flatMap identifiers = (atoms.filter (· ≠ Name.star)).map String.ofList := by
    intro atoms
    induction atoms with
    | nil => rfl
    | cons atom atoms ih =>
      rw [List.map_cons, List.flatMap_cons, ih, ofAtom]
      by_cases hstar : atom = Name.star
      · simp [hstar]
      · simp [hstar, identifiers, OutlinePart.identifier?]
  rw [ofReference, identifiers_append, identifiers_separated, hatoms, List.map_append]
  cases reference.aliasName <;> rfl

end Outline

namespace Dialect

open Outline Recorded

variable {folds : Bool} {hook : Hook} {context : Value} {calls : List (Value × Value)}

theorem answered_wrapName {name : List Char} {sql : Sql}
    (h : ((snowflake folds (some hook)).wrapName name context).Gives sql calls) :
    Answered hook context [.identifier (String.ofList name)] sql.text calls := by
  obtain ⟨answer, first, rest, hcall, hname, rfl⟩ := gives_bind h
  obtain ⟨rfl, rfl⟩ := gives_pure hname
  obtain ⟨⟨⟩, noted, written, hnote, hwrite, rfl⟩ := gives_bind hcall
  obtain ⟨hanswer, rfl⟩ := gives_ofExcept hwrite
  obtain rfl : noted = [(.text (String.ofList name), context)] := hnote.calls.symm
  have htext : Sql.text [.name answer] = answer := by simp [Sql.text, Piece.text]
  rw [htext, List.append_nil, List.append_nil]
  exact answered_identifier hanswer

theorem answered_wrapAtom {atom : List Char} {sql : Sql}
    (h : ((snowflake folds (some hook)).wrapAtom atom context).Gives sql calls) :
    Answered hook context (ofAtom atom) sql.text calls := by
  rw [wrapAtom] at h
  rw [ofAtom]
  split at h
  · next hstar =>
    obtain ⟨rfl, rfl⟩ := gives_pure h
    rw [if_pos hstar, Sql.text_code]
    exact answered_text "*"
  · next hstar =>
    rw [if_neg hstar]
    exact answered_wrapName h

theorem answered_wrap {name : String} {sql : Sql}
    (h : ((snowflake folds (some hook)).wrap name context).Gives sql calls) :
    Answered hook context (ofName name) sql.text calls := by
  rw [ofName]
  rw [wrap] at h
  generalize Name.Reference.parse name.toList = reference at h ⊢
  obtain ⟨atoms, first, rest, hatoms, hend, rfl⟩ := gives_bind h
  obtain ⟨parts, each, joined, hparts, hjoin, rfl⟩ := gives_bind hatoms
  obtain ⟨rfl, rfl⟩ := gives_pure hjoin
  have heach : AnsweredEach hook context ((reference.atoms.filterMap some).map ofAtom) parts each :=
    answeredEach_mapM (fun atom _ part calls hpart => ⟨atom, rfl, answered_wrapAtom hpart⟩) hparts
  have hwritten := heach.separated "."
  rw [List.filterMap_some] at hwritten
  rw [ofReference]
  cases halias : reference.aliasName with
  | none =>
    rw [halias] at hend
    obtain ⟨rfl, rfl⟩ := gives_pure hend
    simpa using hwritten
  | some aliasName =>
    rw [halias] at hend
    obtain ⟨written, named, last, hnamed, hlast, rfl⟩ := gives_bind hend
    obtain ⟨rfl, rfl⟩ := gives_pure hlast
    have haliased := hwritten.append ((answered_wrapName hnamed).after_text " as ")
    simpa [String.append_assoc] using haliased

theorem answered_wrapValue {value : Value} {sql : Sql}
    (h : ((snowflake folds (some hook)).wrapValue value context).Gives sql calls) :
    ∃ name, value.text? = some name ∧ Answered hook context (ofName name) sql.text calls := by
  obtain ⟨name, first, rest, hname, hwritten, rfl⟩ := gives_bind h
  obtain ⟨htext, rfl⟩ := gives_liftM hname
  obtain rfl := Value.toName_eq_ok.mp htext
  exact ⟨name, rfl, answered_wrap hwritten⟩

theorem answered_columnize {columns : List Value} {sql : Sql}
    (h : ((snowflake folds (some hook)).columnize columns context).Gives sql calls) :
    Answered hook context (separated ", " ((columns.filterMap Value.text?).map ofName)) sql.text calls := by
  obtain ⟨parts, each, rest, hparts, hjoined, rfl⟩ := gives_bind h
  obtain ⟨rfl, rfl⟩ := gives_pure hjoined
  rw [List.append_nil]
  exact (answeredEach_mapM (fun value _ part calls hpart => answered_wrapValue hpart) hparts).separated ", "

end Dialect

end SqlBuilder
