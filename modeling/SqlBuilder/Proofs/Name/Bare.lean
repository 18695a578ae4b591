import SqlBuilder.Proofs.Name.Splitting
import SqlBuilder.Proofs.Name.Unquoting
import SqlBuilder.Proofs.Text.Case

/-!
References that are one identifier as they stand. Main statement: what any other reference is called in a
result has fewer blanks, dots and quotes than the reference.
-/

namespace SqlBuilder.Name

/-- An identifier by itself, neither quoted nor with an alias or blanks around it. -/
def IsBare (reference : String) : Prop :=
  (Reference.parse reference.toList).atoms = [reference.toList] ∧
    (Reference.parse reference.toList).aliasName = none ∧ isQuotedChars reference.toList = false

instance (reference : String) : Decidable (IsBare reference) :=
  inferInstanceAs (Decidable (_ ∧ _ ∧ _))

example : IsBare "first name" ∧ ¬ IsBare "users.id" ∧ ¬ IsBare "id as key" ∧ ¬ IsBare "\"id\"" := by decide

/-- The alias of a reference, or else its last atom. -/
def Reference.lastIdentifier (reference : Reference) : List Char :=
  reference.aliasName.getD (reference.atoms.getLast?.getD [])

/-- How many blanks, dots and quotes there are. -/
def marks (cs : List Char) : Nat :=
  cs.countP Text.isMark

theorem marks_append (xs ys : List Char) : marks (xs ++ ys) = marks xs + marks ys :=
  List.countP_append

theorem marks_cons_of_mark {c : Char} (h : Text.isMark c = true) (cs : List Char) :
    marks (c :: cs) = marks cs + 1 :=
  List.countP_cons_of_pos h

theorem marks_le_of_sublist {xs ys : List Char} (h : xs.Sublist ys) : marks xs ≤ marks ys :=
  h.countP_le

/-! ### Blanks around a text -/

theorem dropWhile_eq_or_fewer (cs : List Char) :
    cs.dropWhile Text.isBlank = cs ∨ marks (cs.dropWhile Text.isBlank) < marks cs := by
  cases cs with
  | nil => exact .inl rfl
  | cons c cs =>
    cases hc : Text.isBlank c with
    | false => exact .inl (List.dropWhile_cons_of_neg (by simp [hc]))
    | true =>
      right
      have hle : marks (cs.dropWhile Text.isBlank) ≤ marks cs :=
        marks_le_of_sublist (List.dropWhile_sublist _)
      rw [List.dropWhile_cons_of_pos hc, marks_cons_of_mark (Text.isMark_of_isBlank hc)]
      omega

theorem marks_reverse (cs : List Char) : marks cs.reverse = marks cs :=
  List.countP_reverse

theorem trimRight_eq_or_fewer (cs : List Char) :
    Text.trimRight cs = cs ∨ marks (Text.trimRight cs) < marks cs := by
  rw [Text.trimRight]
  rcases dropWhile_eq_or_fewer cs.reverse with hsame | hfewer
  · exact .inl (by rw [hsame, List.reverse_reverse])
  · exact .inr (by rwa [marks_reverse, ← marks_reverse cs])

theorem trim_eq_or_fewer (cs : List Char) : Text.trim cs = cs ∨ marks (Text.trim cs) < marks cs := by
  rw [Text.trim, Text.trimLeft]
  rcases trimRight_eq_or_fewer (cs.dropWhile Text.isBlank) with hright | hright
  · rw [hright]
    exact dropWhile_eq_or_fewer cs
  · right
    have hleft : marks (cs.dropWhile Text.isBlank) ≤ marks cs :=
      marks_le_of_sublist (List.dropWhile_sublist _)
    omega

theorem marks_trim_le (cs : List Char) : marks (Text.trim cs) ≤ marks cs := by
  rcases trim_eq_or_fewer cs with h | h
  · exact Nat.le_of_eq (congrArg marks h)
  · exact Nat.le_of_lt h

/-! ### Quotes -/

theorem fewer_of_quoted {cs : List Char} (h : isQuotedChars cs = true) :
    marks (unquoteChars cs) < marks cs := by
  have hquotes : marks (quoteMark :: body cs ++ [quoteMark]) = marks (body cs) + 2 := by
    rw [List.cons_append, marks_cons_of_mark (by decide), marks_append]
    rfl
  have hle := marks_le_of_sublist (Text.undouble_sublist quoteMark (body cs))
  rw [← isQuotedChars_iff.mp h] at hquotes
  rw [unquoteChars, if_pos h, hquotes]
  omega

theorem marks_unquoteChars_le (cs : List Char) : marks (unquoteChars cs) ≤ marks cs := by
  cases h : isQuotedChars cs with
  | true => exact Nat.le_of_lt (fewer_of_quoted h)
  | false => simp [unquoteChars, h]

/-! ### Aliases and atoms -/

/-- A separator begins with a blank, and the alias stands somewhere behind it. -/
theorem fewer_of_afterSeparator? {cs after : List Char} (h : afterSeparator? cs = some after) :
    marks after < marks cs := by
  rw [afterSeparator?] at h
  split at h
  case isFalse => cases h
  case isTrue hblank =>
    obtain ⟨c, cs, rfl⟩ : ∃ c rest, cs = c :: rest := by
      cases cs with
      | nil => cases hblank
      | cons c rest => exact ⟨c, rest, rfl⟩
    have hc : Text.isBlank c = true := hblank
    have hsuffix : after <:+ cs := by
      rw [List.dropWhile_cons_of_pos hc] at h
      split at h
      · next a s blank rest hrest =>
        split at h
        · obtain rfl := Option.some.inj h
          have htail : rest <:+ a :: s :: blank :: rest := ⟨[a, s, blank], rfl⟩
          rw [← hrest] at htail
          exact (List.dropWhile_suffix _).trans (htail.trans (List.dropWhile_suffix _))
        · cases h
      · cases h
    have hle := marks_le_of_sublist hsuffix.sublist
    rw [marks_cons_of_mark (Text.isMark_of_isBlank hc)]
    omega

theorem fewer_of_cutAlias? {cs before after : List Char} (h : cutAlias? cs = some (before, after)) :
    marks after < marks cs := by
  induction cs generalizing before after with
  | nil => simp [cutAlias?] at h
  | cons c cs ih =>
    rw [cutAlias?] at h
    split at h
    · next hseparator =>
      obtain ⟨_, rfl⟩ := Prod.mk.inj (Option.some.inj h)
      exact fewer_of_afterSeparator? hseparator
    · obtain ⟨⟨b, a⟩, hcut, he⟩ := Option.map_eq_some_iff.mp h
      obtain ⟨_, rfl⟩ := Prod.mk.inj he
      have hle : marks cs ≤ marks (c :: cs) := marks_le_of_sublist (List.sublist_cons_self c cs)
      have hfewer := ih hcut
      omega

/-- The last atom is all there is, or a dot stands in front of it. -/
theorem last_eq_or_fewer (cs : List Char) :
    splitAtoms false cs = [cs] ∨ marks ((splitAtoms false cs).getLast?.getD []) < marks cs := by
  have hjoin := join_splitAtoms false cs
  match hatoms : splitAtoms false cs with
  | [] => exact absurd hatoms (splitAtoms_ne_nil false cs)
  | [atom] =>
    rw [hatoms, List.intercalate_singleton] at hjoin
    exact .inl (by rw [hjoin])
  | atom :: atom' :: atoms =>
    right
    obtain ⟨last, hlast⟩ : ∃ last, (atom' :: atoms).getLast? = some last :=
      ⟨_, List.getLast?_eq_some_getLast (by simp)⟩
    have hdot : marks ['.'] = 1 := by decide
    have hle := marks_le_of_sublist (infix_join ['.'] (List.mem_of_getLast? hlast)).sublist
    rw [hatoms, List.intercalate_cons_cons] at hjoin
    rw [List.getLast?_cons_cons, hlast, Option.getD_some, ← hjoin, marks_append, marks_append]
    omega

/-- What a reference is called in a result is the whole reference or has fewer marks. -/
theorem lastIdentifier_eq_or_fewer (cs : List Char) :
    ((Reference.parse cs).atoms = [cs] ∧ (Reference.parse cs).aliasName = none) ∨
      marks (Reference.parse cs).lastIdentifier < marks cs := by
  have htrimmed := marks_trim_le cs
  rw [Reference.parse]
  split
  · next before after hcut =>
    right
    have hname := marks_trim_le after
    have hfewer := fewer_of_cutAlias? hcut
    change marks (Text.trim after) < marks cs
    omega
  · rcases last_eq_or_fewer (Text.trim cs) with hwhole | hfewer
    · rcases trim_eq_or_fewer cs with hsame | htrim
      · left
        rw [hwhole, hsame]
        exact ⟨rfl, rfl⟩
      · right
        change marks ((splitAtoms false (Text.trim cs)).getLast?.getD []) < marks cs
        rwa [hwhole]
    · right
      change marks ((splitAtoms false (Text.trim cs)).getLast?.getD []) < marks cs
      omega

end SqlBuilder.Name
