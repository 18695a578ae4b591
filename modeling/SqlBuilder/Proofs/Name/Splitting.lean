import SqlBuilder.Name.Reference
import SqlBuilder.Proofs.Name.Quoting

/-!
References taken apart. Main statements: no atom holds a dot outside quotes, and every atom but the last
closes its quotes.
-/

namespace SqlBuilder.Name

/-- Every dot stands inside quotes. -/
def DotsQuoted (quoted : Bool) (cs : List Char) : Prop :=
  ∀ before after, cs = before ++ '.' :: after → quotedAfter quoted before = true

/-- Atoms as they stand between dots outside quotes, the first of them inside quotes or not. -/
inductive AreAtoms : Bool → List (List Char) → Prop
  | last {quoted : Bool} {atom : List Char} : DotsQuoted quoted atom → AreAtoms quoted [atom]
  | cons {quoted : Bool} {atom : List Char} {atoms : List (List Char)} :
      DotsQuoted quoted atom → quotedAfter quoted atom = false → AreAtoms false atoms →
      AreAtoms quoted (atom :: atoms)

theorem AreAtoms.ne_nil {quoted : Bool} {atoms : List (List Char)} (h : AreAtoms quoted atoms) :
    atoms ≠ [] := by
  cases h <;> simp

theorem AreAtoms.dotsQuoted_of_mem {atoms : List (List Char)} (h : AreAtoms false atoms) {atom : List Char}
    (hmem : atom ∈ atoms) : DotsQuoted false atom := by
  induction atoms with
  | nil => cases hmem
  | cons first atoms ih =>
    cases h with
    | last hdots => rwa [List.mem_singleton.mp hmem]
    | cons hdots _ hrest =>
      obtain rfl | hmem := List.mem_cons.mp hmem
      · exact hdots
      · exact ih hrest hmem

theorem areAtoms_iff {atoms : List (List Char)} :
    AreAtoms false atoms ↔ atoms ≠ [] ∧ (∀ atom ∈ atoms.dropLast, quotedAfter false atom = false) ∧
      ∀ atom ∈ atoms, DotsQuoted false atom := by
  constructor
  · intro h
    refine ⟨h.ne_nil, ?_, fun _ => h.dotsQuoted_of_mem⟩
    induction atoms with
    | nil => cases h
    | cons atom atoms ih =>
      cases h with
      | last _ => simp
      | cons _ hclosed hrest =>
        rw [List.dropLast_cons_of_ne_nil hrest.ne_nil, List.forall_mem_cons]
        exact ⟨hclosed, ih hrest⟩
  · rintro ⟨hne, hclosed, hdots⟩
    induction atoms with
    | nil => exact absurd rfl hne
    | cons atom atoms ih =>
      obtain ⟨hatom, hrest⟩ := List.forall_mem_cons.mp hdots
      cases atoms with
      | nil => exact .last hatom
      | cons next atoms =>
        rw [List.dropLast_cons_of_ne_nil (List.cons_ne_nil _ _), List.forall_mem_cons] at hclosed
        exact .cons hatom hclosed.1 (ih (List.cons_ne_nil _ _) hclosed.2 hrest)

theorem dotsQuoted_nil (quoted : Bool) : DotsQuoted quoted [] := by
  intro before after h
  simp at h

theorem dotsQuoted_cons {quoted : Bool} {c : Char} {cs : List Char}
    (hdot : c = '.' → quoted = true)
    (hcs : DotsQuoted (if c = quoteMark then !quoted else quoted) cs) : DotsQuoted quoted (c :: cs) := by
  intro before after h
  cases before with
  | nil => exact hdot (List.cons.inj h).1
  | cons b before =>
    obtain ⟨rfl, rest⟩ := List.cons.inj h
    exact hcs before after rest

theorem splitAtoms_ne_nil (quoted : Bool) (cs : List Char) : splitAtoms quoted cs ≠ [] := by
  cases cs with
  | nil => simp [splitAtoms]
  | cons c cs =>
    simp only [splitAtoms]
    generalize (if c = quoteMark then !quoted else quoted) = inside
    split
    · simp
    · split <;> simp

/-- A character other than a separating dot goes to the front of the first atom. -/
theorem splitAtoms_cons {quoted : Bool} {c : Char} (cs : List Char)
    (h : ¬(c = '.' ∧ quoted = false)) :
    ∃ atom atoms, splitAtoms (if c = quoteMark then !quoted else quoted) cs = atom :: atoms ∧
      splitAtoms quoted (c :: cs) = (c :: atom) :: atoms := by
  have hsep : ¬(c = '.' ∧ (if c = quoteMark then !quoted else quoted) = false) := by
    rintro ⟨rfl, hq⟩
    exact h ⟨rfl, by simpa [quoteMark] using hq⟩
  obtain ⟨atom, atoms, hs⟩ := List.exists_cons_of_ne_nil
    (splitAtoms_ne_nil (if c = quoteMark then !quoted else quoted) cs)
  refine ⟨atom, atoms, hs, ?_⟩
  rw [splitAtoms, if_neg hsep, hs]

theorem splitAtoms_dot (cs : List Char) : splitAtoms false ('.' :: cs) = [] :: splitAtoms false cs := by
  simp [splitAtoms, quoteMark]

theorem areAtoms_splitAtoms (quoted : Bool) (cs : List Char) : AreAtoms quoted (splitAtoms quoted cs) := by
  induction cs generalizing quoted with
  | nil => exact .last (dotsQuoted_nil quoted)
  | cons c cs ih =>
    by_cases hsep : c = '.' ∧ quoted = false
    · obtain ⟨rfl, rfl⟩ := hsep
      rw [splitAtoms_dot]
      exact .cons (dotsQuoted_nil false) rfl (ih false)
    · have hdot : c = '.' → quoted = true := fun hc => by
        simpa using fun hq => hsep ⟨hc, hq⟩
      obtain ⟨atom, atoms, hs, he⟩ := splitAtoms_cons cs hsep
      have rest := ih (if c = quoteMark then !quoted else quoted)
      rw [hs] at rest
      rw [he]
      cases rest with
      | last hd => exact .last (dotsQuoted_cons hdot hd)
      | cons hd hq ha => exact .cons (dotsQuoted_cons hdot hd) hq ha

theorem join_splitAtoms (quoted : Bool) (cs : List Char) :
    List.intercalate ['.'] (splitAtoms quoted cs) = cs := by
  induction cs generalizing quoted with
  | nil => rfl
  | cons c cs ih =>
    by_cases hsep : c = '.' ∧ quoted = false
    · obtain ⟨rfl, rfl⟩ := hsep
      rw [splitAtoms_dot, List.intercalate_cons_of_ne_nil (splitAtoms_ne_nil false cs), ih]
      rfl
    · obtain ⟨atom, atoms, hs, he⟩ := splitAtoms_cons cs hsep
      have rest := ih (if c = quoteMark then !quoted else quoted)
      rw [hs] at rest
      rw [he]
      cases atoms with
      | nil => simpa using rest
      | cons a as => simpa [List.intercalate_cons_cons] using rest

theorem DotsQuoted.head {quoted : Bool} {c : Char} {cs : List Char} (h : DotsQuoted quoted (c :: cs))
    (hdot : c = '.') : quoted = true :=
  h [] cs (by rw [hdot]; rfl)

theorem DotsQuoted.tail {quoted : Bool} {c : Char} {cs : List Char} (h : DotsQuoted quoted (c :: cs)) :
    DotsQuoted (if c = quoteMark then !quoted else quoted) cs :=
  fun before after hsplit => h (c :: before) after (by rw [hsplit]; rfl)

/-- What has its dots inside quotes goes to the front of the first atom. -/
theorem splitAtoms_append {quoted : Bool} {part cs first : List Char} {atoms : List (List Char)}
    (hpart : DotsQuoted quoted part) (hrest : splitAtoms (quotedAfter quoted part) cs = first :: atoms) :
    splitAtoms quoted (part ++ cs) = (part ++ first) :: atoms := by
  induction part generalizing quoted with
  | nil => exact hrest
  | cons c part ih =>
    have hsep : ¬(c = '.' ∧ quoted = false) := by
      rintro ⟨hdot, hq⟩
      rw [hpart.head hdot] at hq
      cases hq
    obtain ⟨atom, rest, htail, hcons⟩ := splitAtoms_cons (part ++ cs) hsep
    rw [ih hpart.tail hrest] at htail
    obtain ⟨rfl, rfl⟩ := List.cons.inj htail
    exact hcons

/-- Atoms that are joined by dots are found again. -/
theorem splitAtoms_join {quoted : Bool} {atoms : List (List Char)} (h : AreAtoms quoted atoms) :
    splitAtoms quoted (List.intercalate ['.'] atoms) = atoms := by
  induction h with
  | @last quoted atom hdots =>
    have hatom : splitAtoms quoted (atom ++ []) = [atom ++ []] := splitAtoms_append hdots rfl
    simpa using hatom
  | @cons quoted atom atoms hdots hclosed hrest ih =>
    have hdot : splitAtoms (quotedAfter quoted atom) ('.' :: List.intercalate ['.'] atoms) = [] :: atoms := by
      rw [hclosed, splitAtoms_dot, ih]
    rw [List.intercalate_cons_of_ne_nil hrest.ne_nil, List.append_assoc]
    simpa using splitAtoms_append hdots hdot

theorem splitAtoms_eq_iff {cs : List Char} {atoms : List (List Char)} :
    splitAtoms false cs = atoms ↔ AreAtoms false atoms ∧ List.intercalate ['.'] atoms = cs := by
  constructor
  · rintro rfl
    exact ⟨areAtoms_splitAtoms false cs, join_splitAtoms false cs⟩
  · rintro ⟨hatoms, rfl⟩
    exact splitAtoms_join hatoms

/-- Two parts are split as each of them is, and the atoms where they meet are one. -/
theorem splitAtoms_append_parts (quoted : Bool) (xs ys : List Char) :
    ∃ front last first back, splitAtoms quoted xs = front ++ [last] ∧
      splitAtoms (quotedAfter quoted xs) ys = first :: back ∧
      splitAtoms quoted (xs ++ ys) = front ++ (last ++ first) :: back := by
  induction xs generalizing quoted with
  | nil =>
    obtain ⟨first, back, hys⟩ := List.exists_cons_of_ne_nil (splitAtoms_ne_nil quoted ys)
    exact ⟨[], [], first, back, rfl, hys, hys⟩
  | cons c xs ih =>
    obtain ⟨front, last, first, back, hxs, hys, happend⟩ := ih (if c = quoteMark then !quoted else quoted)
    by_cases hsep : c = '.' ∧ quoted = false
    · obtain ⟨rfl, rfl⟩ := hsep
      refine ⟨[] :: front, last, first, back, ?_, hys, ?_⟩
      · rw [splitAtoms_dot]
        exact congrArg ([] :: ·) hxs
      · rw [List.cons_append, splitAtoms_dot]
        exact congrArg ([] :: ·) happend
    · obtain ⟨atom, atoms, htail, hcons⟩ := splitAtoms_cons xs hsep
      obtain ⟨atom', atoms', htail', hcons'⟩ := splitAtoms_cons (xs ++ ys) hsep
      rw [hxs] at htail
      rw [happend] at htail'
      rw [List.cons_append, hcons, hcons']
      cases front with
      | nil =>
        obtain ⟨rfl, rfl⟩ := List.cons.inj htail
        obtain ⟨rfl, rfl⟩ := List.cons.inj htail'
        exact ⟨[], c :: last, first, back, rfl, hys, rfl⟩
      | cons part front =>
        obtain ⟨rfl, rfl⟩ := List.cons.inj htail
        obtain ⟨rfl, rfl⟩ := List.cons.inj htail'
        exact ⟨(c :: part) :: front, last, first, back, rfl, hys, rfl⟩

theorem infix_join (sep : List Char) {part : List Char} {parts : List (List Char)} (h : part ∈ parts) :
    part <:+: List.intercalate sep parts := by
  induction parts with
  | nil => simp at h
  | cons p ps ih =>
    cases ps with
    | nil =>
      obtain rfl : part = p := by simpa using h
      have hsingle : List.intercalate sep [part] = part := List.intercalate_singleton
      simp only [hsingle, List.infix_rfl]
    | cons p' ps =>
      rw [List.intercalate_cons_cons]
      rcases List.mem_cons.mp h with rfl | h
      · exact (List.prefix_append part _).isInfix.trans (List.prefix_append _ _).isInfix
      · exact (ih h).trans (List.suffix_append _ _).isInfix

theorem suffix_join (sep : List Char) (parts : List (List Char)) (last : List Char) :
    last <:+ List.intercalate sep (parts ++ [last]) := by
  induction parts with
  | nil => simp
  | cons part parts ih =>
    rw [List.cons_append, List.intercalate_cons_of_ne_nil (by simp)]
    exact ih.trans (List.suffix_append _ _)

theorem infix_trim (cs : List Char) : Text.trim cs <:+: cs := by
  have hleft : Text.trimLeft cs <:+ cs := List.dropWhile_suffix _
  have hright : Text.trimRight (Text.trimLeft cs) <+: Text.trimLeft cs := by
    rw [Text.trimRight, ← List.reverse_suffix, List.reverse_reverse]
    exact List.dropWhile_suffix _
  exact hright.isInfix.trans hleft.isInfix

namespace Reference

/-- The atoms of a reference and its alias. -/
def identifiers (r : Reference) : List (List Char) :=
  r.atoms ++ r.aliasName.toList

theorem areAtoms_parse (cs : List Char) : AreAtoms false (parse cs).atoms := by
  rw [parse]
  split <;> exact areAtoms_splitAtoms false _

end Reference

end SqlBuilder.Name
