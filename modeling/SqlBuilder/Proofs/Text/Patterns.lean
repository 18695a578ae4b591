import Mathlib.Data.List.Infix
import SqlBuilder.Proofs.Text.Lowering

/-!
Patterns of SQL, in which some characters stand for others. Main statements: a text without wildcards matches
itself alone, between two wildcards for any text it matches the texts that it stands in, and a text with a
wildcard in it matches another one besides; all this does not change where case is not looked at.
-/

namespace SqlBuilder.Text

/-- A percent sign stands for any text, and an underscore for any one character. -/
def isWildcard (c : Char) : Bool :=
  c == '%' || c == '_'

/-- A pattern and a text that it stands for. -/
inductive Matches : List Char → List Char → Prop
  | nil : Matches [] []
  | anyText {pattern rest : List Char} (skipped : List Char) :
      Matches pattern rest → Matches ('%' :: pattern) (skipped ++ rest)
  | anyCharacter {pattern rest : List Char} (c : Char) :
      Matches pattern rest → Matches ('_' :: pattern) (c :: rest)
  | itself {c : Char} {pattern rest : List Char} :
      isWildcard c = false → Matches pattern rest → Matches (c :: pattern) (c :: rest)

theorem isWildcard_iff {c : Char} : isWildcard c = true ↔ c = '%' ∨ c = '_' := by
  rw [isWildcard, Bool.or_eq_true, beq_iff_eq, beq_iff_eq]

/-- A wildcard stands for any one character, and maybe for more. -/
theorem Matches.wildcard {w : Char} (hw : isWildcard w = true) (c : Char) {pattern rest : List Char}
    (h : Matches pattern rest) : Matches (w :: pattern) (c :: rest) := by
  rcases isWildcard_iff.mp hw with rfl | rfl
  · exact .anyText [c] h
  · exact .anyCharacter c h

theorem Matches.append {p q s t : List Char} (hp : Matches p s) (hq : Matches q t) :
    Matches (p ++ q) (s ++ t) := by
  induction hp with
  | nil => exact hq
  | anyText skipped _ ih =>
    rw [List.append_assoc]
    exact .anyText skipped ih
  | anyCharacter c _ ih => exact .anyCharacter c ih
  | itself hc _ ih => exact .itself hc ih

/-- Every text matches itself, wildcards or not. -/
theorem matches_self (cs : List Char) : Matches cs cs := by
  induction cs with
  | nil => exact .nil
  | cons c cs ih =>
    cases hc : isWildcard c with
    | true => exact ih.wildcard hc c
    | false => exact .itself hc ih

theorem matches_nil_iff {text : List Char} : Matches [] text ↔ text = [] := by
  constructor
  · intro h
    cases h
    rfl
  · rintro rfl
    exact .nil

theorem matches_anyText_iff {pattern text : List Char} :
    Matches ('%' :: pattern) text ↔ ∃ rest, rest <:+ text ∧ Matches pattern rest := by
  constructor
  · intro h
    cases h with
    | anyText skipped hrest => exact ⟨_, List.suffix_append skipped _, hrest⟩
    | itself hc => cases hc
  · rintro ⟨rest, ⟨skipped, rfl⟩, hrest⟩
    exact .anyText skipped hrest

theorem matches_cons_iff {c : Char} (hc : c ≠ '%') {pattern text : List Char} :
    Matches (c :: pattern) text ↔ ∃ d rest, text = d :: rest ∧ (c = '_' ∨ c = d) ∧ Matches pattern rest := by
  constructor
  · intro h
    cases h with
    | anyText => exact absurd rfl hc
    | anyCharacter d hrest => exact ⟨d, _, rfl, .inl rfl, hrest⟩
    | itself _ hrest => exact ⟨c, _, rfl, .inr rfl, hrest⟩
  · rintro ⟨d, rest, rfl, rfl | rfl, hrest⟩
    · exact .anyCharacter d hrest
    · by_cases hwildcard : isWildcard c = true
      · exact hrest.wildcard hwildcard c
      · exact .itself (by simpa using hwildcard) hrest

/-- Whether a pattern stands for a text. -/
def isMatch : List Char → List Char → Bool
  | [], text => text.isEmpty
  | c :: pattern, text =>
    if c = '%' then text.tails.any (isMatch pattern)
    else
      match text with
      | [] => false
      | d :: rest => (c == '_' || c == d) && isMatch pattern rest

theorem isMatch_iff {pattern text : List Char} : isMatch pattern text = true ↔ Matches pattern text := by
  induction pattern generalizing text with
  | nil => rw [isMatch, List.isEmpty_iff, matches_nil_iff]
  | cons c pattern ih =>
    unfold isMatch
    split
    · next hc => simp [hc, matches_anyText_iff, ih]
    · next hc =>
      cases text with
      | nil => simp [matches_cons_iff hc]
      | cons d rest => simp [matches_cons_iff hc, ih]

instance (pattern text : List Char) : Decidable (Matches pattern text) :=
  decidable_of_iff _ isMatch_iff

example : Matches "5_%".toList "500".toList ∧ ¬ Matches "5_".toList "500".toList := by decide

/-! ### Texts without wildcards -/

def IsPlain (cs : List Char) : Prop :=
  ∀ c ∈ cs, isWildcard c = false

instance (cs : List Char) : Decidable (IsPlain cs) :=
  inferInstanceAs (Decidable (∀ c ∈ cs, isWildcard c = false))

theorem matches_append_iff {v : List Char} (h : IsPlain v) {pattern text : List Char} :
    Matches (v ++ pattern) text ↔ ∃ rest, text = v ++ rest ∧ Matches pattern rest := by
  induction v generalizing text with
  | nil => simp
  | cons c v ih =>
    obtain ⟨hc, hv⟩ := List.forall_mem_cons.mp h
    constructor
    · intro hmatches
      cases hmatches with
      | anyText => cases hc
      | anyCharacter => cases hc
      | itself _ hrest =>
        obtain ⟨rest, rfl, hpattern⟩ := (ih hv).mp hrest
        exact ⟨rest, rfl, hpattern⟩
    · rintro ⟨rest, rfl, hpattern⟩
      exact .itself hc ((ih hv).mpr ⟨rest, rfl, hpattern⟩)

theorem matches_iff_of_plain {v : List Char} (h : IsPlain v) {text : List Char} : Matches v text ↔ text = v := by
  have happend : Matches (v ++ []) text ↔ ∃ rest, text = v ++ rest ∧ Matches [] rest := matches_append_iff h
  rw [List.append_nil] at happend
  rw [happend]
  simp [matches_nil_iff]

/-! ### Texts between wildcards -/

/-- A pattern for all texts that a text stands in. -/
def within (v : List Char) : List Char :=
  '%' :: (v ++ ['%'])

theorem Matches.within {v text : List Char} (h : Matches v text) (before after : List Char) :
    Matches (within v) (before ++ text ++ after) := by
  rw [List.append_assoc]
  refine .anyText before (h.append ?_)
  simpa using Matches.anyText after .nil

theorem matches_within_of_part {v text : List Char} (h : v <:+: text) : Matches (within v) text := by
  obtain ⟨before, after, rfl⟩ := h
  exact (matches_self v).within before after

theorem part_of_matches_within {v text : List Char} (h : IsPlain v) (hmatches : Matches (within v) text) :
    v <:+: text := by
  cases hmatches with
  | anyText skipped hrest =>
    obtain ⟨rest, rfl, -⟩ := (matches_append_iff h).mp hrest
    exact ⟨skipped, rest, List.append_assoc _ _ _⟩
  | itself hc => cases hc

/-! ### Texts with wildcards in them -/

/-- The wildcard that another one is put for. -/
def otherWildcard (w : Char) : Char :=
  if w = '%' then '_' else '%'

theorem otherWildcard_ne {w : Char} (hw : isWildcard w = true) : otherWildcard w ≠ w := by
  rcases isWildcard_iff.mp hw with rfl | rfl <;> decide

theorem isWildcard_otherWildcard (w : Char) : isWildcard (otherWildcard w) = true := by
  rw [otherWildcard]
  split <;> rfl

theorem matches_other {w : Char} (hw : isWildcard w = true) (c : Char) (before after : List Char) :
    Matches (before ++ w :: after) (before ++ c :: after) :=
  (matches_self before).append ((matches_self after).wildcard hw c)

theorem not_infix_other {w : Char} (hw : isWildcard w = true) (before after : List Char) :
    ¬ before ++ w :: after <:+: before ++ otherWildcard w :: after := by
  intro h
  have hsame := h.eq_of_length (by simp)
  have htail := List.append_cancel_left hsame
  exact otherWildcard_ne hw (List.cons.inj htail).1.symm

/-! ### Case -/

/-- A way of not looking at case: every text has a form that it shares with those that it is the same as.
Wildcards are left alone. -/
structure Casing where
  fold : List Char → List Char
  fold_wildcard : ∀ w, isWildcard w = true → ∀ before after,
    fold (before ++ w :: after) = fold before ++ w :: fold after
  wildcard_of_fold : ∀ w, isWildcard w = true → ∀ cs, w ∈ fold cs → w ∈ cs

theorem lowersNone_wildcards : LowersNone ['%'.toNat, '_'.toNat] where
  letters := by decide
  sigmas := by decide
  expansions := by decide
  runs := by decide +kernel

/-- What is no letter and is not looked past ends a word, so a sigma before it does not see what follows. -/
theorem lowerFrom_append_cons {w : Char} (hignored : isCaseIgnorable w = false) (hcased : isCased w = false)
    (hsame : lowerChar w = [w]) (hsigma : w ≠ capitalSigma) (afterCased : Bool) (before after : List Char) :
    lowerFrom afterCased (before ++ w :: after) = lowerFrom afterCased before ++ w :: lowerFrom false after := by
  induction before generalizing afterCased with
  | nil => simp [lowerFrom, hsigma, hsame, hignored, hcased]
  | cons c before ih =>
    have hlook : lowerSigma afterCased (before ++ w :: after) = lowerSigma afterCased before := by
      rw [lowerSigma, lowerSigma, List.dropWhile_append]
      cases hrest : before.dropWhile isCaseIgnorable with
      | nil => simp [hignored, hcased]
      | cons d rest => rfl
    rw [List.cons_append, lowerFrom, lowerFrom, ih, hlook, List.append_assoc]

/-- Case as Unicode has it. -/
def Casing.unicode : Casing where
  fold := lowerChars
  fold_wildcard := by
    intro w hw before after
    rcases isWildcard_iff.mp hw with rfl | rfl <;>
      exact lowerFrom_append_cons (by decide) (by decide) (by decide) (by decide) false before after
  wildcard_of_fold := by
    intro w hw cs hmem
    refine lowersNone_wildcards.mem_of_mem_lowerFrom ?_ hmem
    rcases isWildcard_iff.mp hw with rfl | rfl <;> decide

theorem Casing.isPlain_fold (casing : Casing) {v : List Char} (h : IsPlain v) : IsPlain (casing.fold v) := by
  intro w hmem
  cases hw : isWildcard w with
  | false => rfl
  | true => exact hw.symm.trans (h w (casing.wildcard_of_fold w hw v hmem))

/-- A wildcard in a pattern is met by another one in its place, which no change of case makes the same. -/
theorem Casing.matches_other (casing : Casing) {w : Char} (hw : isWildcard w = true) (before after : List Char) :
    Matches (casing.fold (before ++ w :: after)) (casing.fold (before ++ otherWildcard w :: after)) ∧
      casing.fold (before ++ w :: after) ≠ casing.fold (before ++ otherWildcard w :: after) := by
  rw [casing.fold_wildcard w hw, casing.fold_wildcard _ (isWildcard_otherWildcard w)]
  refine ⟨Text.matches_other hw (otherWildcard w) _ _, fun hsame => ?_⟩
  have htail := List.append_cancel_left hsame
  exact otherWildcard_ne hw (List.cons.inj htail).1.symm

theorem exists_wildcard_of_not_plain {v : List Char} (h : ¬ IsPlain v) :
    ∃ before w after, v = before ++ w :: after ∧ isWildcard w = true := by
  obtain ⟨w, hmem, hw⟩ : ∃ w ∈ v, isWildcard w = true := by simpa [IsPlain] using h
  obtain ⟨before, after, rfl⟩ := List.append_of_mem hmem
  exact ⟨before, w, after, rfl, hw⟩

end SqlBuilder.Text
