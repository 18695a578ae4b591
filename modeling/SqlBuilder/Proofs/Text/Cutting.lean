import Mathlib.Data.List.TakeWhile
import SqlBuilder.Text.Split

/-!
Texts cut where they were joined. Main statements: the first separator is the one after a part without any,
the last one is the one before such a part, what is left out of a text between the separators is left out
of each of its parts, and a text is cut at a pair of marks unless there is one before it.
-/

namespace SqlBuilder.Text

variable {separator : Char} {xs ys : List Char}

theorem takeWhile_ne_separator (h : separator ∉ xs) : xs.takeWhile (· != separator) = xs := by
  rw [List.takeWhile_eq_self_iff]
  intro c hc
  have hother : c ≠ separator := fun hsame => h (hsame ▸ hc)
  simpa using hother

theorem dropWhile_ne_separator (h : separator ∉ xs) : xs.dropWhile (· != separator) = [] := by
  rw [List.dropWhile_eq_nil_iff]
  intro c hc
  have hother : c ≠ separator := fun hsame => h (hsame ▸ hc)
  simpa using hother

theorem cutAt_of_not_mem (h : separator ∉ xs) : cutAt separator xs = (xs, none) := by
  rw [cutAt, dropWhile_ne_separator h]

theorem cutAt_append (h : separator ∉ xs) (ys : List Char) :
    cutAt separator (xs ++ separator :: ys) = (xs, some ys) := by
  have hdrop : (xs ++ separator :: ys).dropWhile (· != separator) = separator :: ys := by
    rw [List.dropWhile_append, dropWhile_ne_separator h]
    simp
  have htake : (xs ++ separator :: ys).takeWhile (· != separator) = xs := by
    rw [List.takeWhile_append, takeWhile_ne_separator h]
    simp
  rw [cutAt, hdrop, htake]

theorem not_mem_takeWhile (separator : Char) (cs : List Char) : separator ∉ cs.takeWhile (· != separator) :=
  fun h => by simpa using List.mem_takeWhile_imp h

/-- What is cut off, put back. -/
theorem cutAt_eq_some {cs before after : List Char} (h : cutAt separator cs = (before, some after)) :
    cs = before ++ separator :: after ∧ separator ∉ before := by
  unfold cutAt at h
  cases hdrop : cs.dropWhile (· != separator) with
  | nil =>
    rw [hdrop] at h
    cases h
  | cons c rest =>
    rw [hdrop] at h
    obtain ⟨rfl, hafter⟩ := Prod.mk.inj h
    obtain rfl := Option.some.inj hafter
    have hc : c = separator := by
      have hhead := List.head?_dropWhile_not (· != separator) cs
      rw [hdrop] at hhead
      simpa using hhead
    have hsplit := List.takeWhile_append_dropWhile (p := (· != separator)) (l := cs)
    rw [hdrop, hc] at hsplit
    exact ⟨hsplit.symm, not_mem_takeWhile separator cs⟩

theorem cutAt_eq_none {cs before : List Char} (h : cutAt separator cs = (before, none)) :
    before = cs ∧ separator ∉ cs := by
  unfold cutAt at h
  cases hdrop : cs.dropWhile (· != separator) with
  | nil =>
    rw [hdrop] at h
    refine ⟨(congrArg Prod.fst h).symm, fun hmem => ?_⟩
    exact absurd (List.dropWhile_eq_nil_iff.mp hdrop separator hmem) (by simp)
  | cons c rest =>
    rw [hdrop] at h
    cases h

/-- The part in front is the same whether or not something is cut off. -/
theorem cutAt_fst (separator : Char) (cs : List Char) :
    (cutAt separator cs).1 = cs.takeWhile (· != separator) := by
  cases hcut : cutAt separator cs with
  | mk before after =>
    cases after with
    | none =>
      obtain ⟨rfl, hnone⟩ := cutAt_eq_none hcut
      exact (takeWhile_ne_separator hnone).symm
    | some after =>
      obtain ⟨rfl, hbefore⟩ := cutAt_eq_some hcut
      rw [List.takeWhile_append, takeWhile_ne_separator hbefore]
      simp

theorem cutAtLast_append (xs : List Char) (h : separator ∉ ys) :
    cutAtLast separator (xs ++ separator :: ys) = (some xs, ys) := by
  have hreverse : (xs ++ separator :: ys).reverse = ys.reverse ++ separator :: xs.reverse := by simp
  have hafter : separator ∉ ys.reverse := by simpa using h
  rw [cutAtLast, hreverse, cutAt_append hafter]
  simp

theorem cutAtLast_of_not_mem (h : separator ∉ xs) : cutAtLast separator xs = (none, xs) := by
  have hreverse : separator ∉ xs.reverse := by simpa using h
  rw [cutAtLast, cutAt_of_not_mem hreverse]

theorem cutAtLast_eq_some {cs before after : List Char} (h : cutAtLast separator cs = (some before, after)) :
    cs = before ++ separator :: after ∧ separator ∉ after := by
  unfold cutAtLast at h
  cases hcut : cutAt separator cs.reverse with
  | mk first rest =>
    rw [hcut] at h
    cases rest with
    | none => cases h
    | some rest =>
      obtain ⟨hbefore, rfl⟩ := Prod.mk.inj h
      obtain rfl := Option.some.inj hbefore
      obtain ⟨hreverse, hnone⟩ := cutAt_eq_some hcut
      rw [← List.reverse_reverse cs, hreverse]
      simpa using hnone

theorem cutAtLast_eq_none {cs after : List Char} (h : cutAtLast separator cs = (none, after)) :
    after = cs ∧ separator ∉ cs := by
  unfold cutAtLast at h
  cases hcut : cutAt separator cs.reverse with
  | mk first rest =>
    rw [hcut] at h
    cases rest with
    | none =>
      have hnone := (cutAt_eq_none hcut).2
      exact ⟨(congrArg Prod.snd h).symm, by simpa using hnone⟩
    | some rest => cases h

theorem splitAt_ne_nil (separator : Char) (cs : List Char) : splitAt separator cs ≠ [] := by
  fun_cases splitAt separator cs <;> simp

theorem splitAt_of_not_mem (h : separator ∉ xs) : splitAt separator xs = [xs] := by
  induction xs with
  | nil => rfl
  | cons c xs ih =>
    obtain ⟨hc, hxs⟩ := List.ne_and_not_mem_of_not_mem_cons h
    rw [splitAt, if_neg (Ne.symm hc), ih hxs]

theorem splitAt_append (h : separator ∉ xs) (ys : List Char) :
    splitAt separator (xs ++ separator :: ys) = xs :: splitAt separator ys := by
  induction xs with
  | nil => exact if_pos rfl
  | cons c xs ih =>
    obtain ⟨hc, hxs⟩ := List.ne_and_not_mem_of_not_mem_cons h
    rw [List.cons_append, splitAt, if_neg (Ne.symm hc), ih hxs]

/-- Parts without separators are found where they were joined. -/
theorem splitAt_intercalate {parts : List (List Char)} (hparts : parts ≠ [])
    (h : ∀ part ∈ parts, separator ∉ part) :
    splitAt separator (List.intercalate [separator] parts) = parts := by
  induction parts with
  | nil => exact absurd rfl hparts
  | cons part parts ih =>
    rw [List.forall_mem_cons] at h
    cases parts with
    | nil => rw [List.intercalate_singleton, splitAt_of_not_mem h.1]
    | cons next parts =>
      rw [List.intercalate_cons_cons, List.append_assoc, List.singleton_append, splitAt_append h.1,
        ih (List.cons_ne_nil _ _) h.2]

/-- Leaving characters out of a text leaves them out of its parts, as long as the separators stay. -/
theorem splitAt_filter {p : Char → Bool} (h : p separator = true) (cs : List Char) :
    splitAt separator (cs.filter p) = (splitAt separator cs).map (List.filter p) := by
  induction cs with
  | nil => rfl
  | cons c cs ih =>
    by_cases hseparator : c = separator
    · subst hseparator
      rw [List.filter_cons_of_pos h, splitAt, if_pos rfl, splitAt, if_pos rfl, ih]
      rfl
    · obtain ⟨part, parts, hparts⟩ := List.exists_cons_of_ne_nil (splitAt_ne_nil separator cs)
      rw [hparts] at ih
      rw [splitAt, if_neg hseparator, hparts]
      cases hc : p c with
      | false => rw [List.filter_cons_of_neg (by simp [hc]), ih]; simp [hc]
      | true => rw [List.filter_cons_of_pos hc, splitAt, if_neg hseparator, ih]; simp [hc]

/-! ### Parts of a text -/

theorem occursIn_iff {α : Type} [BEq α] [LawfulBEq α] {part xs : List α} :
    occursIn part xs = true ↔ part <:+: xs := by
  induction xs with
  | nil => rw [occursIn, List.isEmpty_iff, List.infix_nil]
  | cons x xs ih => rw [occursIn, Bool.or_eq_true, List.isPrefixOf_iff_prefix, ih, List.infix_cons_iff]

/-! ### Pairs of marks -/

theorem pair_prefix_iff {m x : Char} (xs ys : List Char) :
    [m, m] <+: x :: (xs ++ m :: ys) ↔ [m, m] <+: x :: (xs ++ [m]) := by
  cases xs with
  | nil => simp [List.cons_prefix_cons]
  | cons x' xs => simp [List.cons_prefix_cons]

/-- A text is cut at a pair of marks that was put in, unless there is one before it; then a mark is left in
what stands behind the cut. -/
theorem cutAtMark?_pair (m : Char) (xs ys : List Char) :
    (¬ [m, m] <:+: xs ++ [m] ∧ cutAtMark? [m, m] (xs ++ m :: m :: ys) = some (xs, ys)) ∨
      ([m, m] <:+: xs ++ [m] ∧
        ∃ before after, cutAtMark? [m, m] (xs ++ m :: m :: ys) = some (before, after) ∧ m ∈ after) := by
  induction xs with
  | nil =>
    refine .inl ⟨?_, ?_⟩
    · intro h
      simpa using h.length_le
    · simp [cutAtMark?]
  | cons x xs ih =>
    rw [List.cons_append, List.cons_append, List.infix_cons_iff, cutAtMark?]
    by_cases hprefix : [m, m] <+: x :: (xs ++ m :: m :: ys)
    · rw [if_pos (List.isPrefixOf_iff_prefix.mpr hprefix)]
      refine .inr ⟨.inl ((pair_prefix_iff xs _).mp hprefix), [], _, rfl, ?_⟩
      cases xs <;> simp
    · rw [if_neg (mt List.isPrefixOf_iff_prefix.mp hprefix)]
      have hnone := mt (pair_prefix_iff xs _).mpr hprefix
      rcases ih with ⟨hnot, hcut⟩ | ⟨hin, before, after, hcut, hmem⟩
      · refine .inl ⟨?_, by rw [hcut]; rfl⟩
        rintro (hfirst | hrest)
        · exact hnone hfirst
        · exact hnot hrest
      · exact .inr ⟨.inr hin, x :: before, after, by rw [hcut]; rfl, hmem⟩

end SqlBuilder.Text
