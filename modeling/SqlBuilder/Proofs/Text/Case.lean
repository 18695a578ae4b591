import SqlBuilder.Text.Blank
import SqlBuilder.Text.Case

/-!
Changes of case keep marks and letters apart. Main statements: blanks, dots and double quotes come from
themselves alone, and a text has as many of them in upper and in lower case.
-/

namespace SqlBuilder.Text

/-- Double quotes, dots and blanks, where references are taken apart. -/
def markRanges : List CodeRange :=
  (0x22, 0x22) :: (0x2e, 0x2e) :: blankRanges

def isMark (c : Char) : Bool :=
  covers markRanges c

theorem isMark_of_isBlank {c : Char} (h : isBlank c = true) : isMark c = true := by
  rw [isMark, markRanges, covers, List.any_cons, List.any_cons, Bool.or_eq_true, Bool.or_eq_true]
  exact .inr (.inr h)

/-- A mark stays as it is, and nothing else becomes one. -/
structure LeavesMarks (change : Char → List Char) : Prop where
  of_mark : ∀ c, isMark c = true → change c = [c]
  of_other : ∀ c, isMark c = false → ∀ d ∈ change c, isMark d = false

theorem LeavesMarks.countP {change : Char → List Char} (h : LeavesMarks change) (c : Char) :
    (change c).countP isMark = [c].countP isMark := by
  cases hc : isMark c with
  | true => rw [h.of_mark c hc]
  | false =>
    have hnone : (change c).countP isMark = 0 :=
      List.countP_eq_zero.mpr fun d hd => by simp [h.of_other c hc d hd]
    simp [hnone, hc]

/-! ### The tables of case -/

/-- The run lies beside the range, and so does all that it leads to. -/
def CaseRun.avoids (run : CaseRun) (range : CodeRange) : Bool :=
  0 < range.1 && (run.last < range.1 || range.2 < run.first) &&
    (run.last + run.shift < range.1 || (range.2 : Int) < run.first + run.shift)

def tableAvoidsMarks (expansions : List (Nat × List Nat)) (runs : List CaseRun) : Bool :=
  (expansions.all fun e => !isMark (Char.ofNat e.1) && e.2.all fun n => !isMark (Char.ofNat n)) &&
    runs.all fun run => markRanges.all run.avoids

theorem upperTable_avoidsMarks : tableAvoidsMarks upperExpansions upperRuns = true := by
  decide +kernel

theorem lowerTable_avoidsMarks : tableAvoidsMarks lowerExpansions lowerRuns = true := by
  decide +kernel

theorem toNat_ofNat_of_valid {n : Nat} (h : n.isValidChar) : (Char.ofNat n).toNat = n := by
  rw [Char.ofNat, dif_pos h]
  rfl

theorem toNat_ofNat (n : Nat) : (Char.ofNat n).toNat = n ∨ (Char.ofNat n).toNat = 0 := by
  by_cases h : n.isValidChar
  · exact .inl (toNat_ofNat_of_valid h)
  · right
    rw [Char.ofNat, dif_neg h]
    rfl

theorem not_mark_of_run {run : CaseRun} (h : markRanges.all run.avoids = true) {c : Char}
    (hc : run.covers c.toNat = true) :
    isMark c = false ∧ isMark (Char.ofNat (c.toNat + run.shift).toNat) = false := by
  rw [List.all_eq_true] at h
  simp only [CaseRun.covers, Bool.and_eq_true, decide_eq_true_eq] at hc
  simp only [isMark, covers, List.any_eq_false]
  refine ⟨fun range hrange => ?_, fun range hrange => ?_⟩
  · have havoids := h range hrange
    simp only [CaseRun.avoids, Bool.and_eq_true, Bool.or_eq_true, decide_eq_true_eq] at havoids ⊢
    omega
  · have havoids := h range hrange
    have htarget := toNat_ofNat (c.toNat + run.shift).toNat
    simp only [CaseRun.avoids, Bool.and_eq_true, Bool.or_eq_true, decide_eq_true_eq] at havoids ⊢
    omega

theorem leavesMarks_mapCase {expansions : List (Nat × List Nat)} {runs : List CaseRun}
    (h : tableAvoidsMarks expansions runs = true) : LeavesMarks (mapCase expansions runs) := by
  rw [tableAvoidsMarks, Bool.and_eq_true, List.all_eq_true, List.all_eq_true] at h
  obtain ⟨hexpansions, hruns⟩ := h
  have hlisted : ∀ c targets, expansions.lookup c.toNat = some targets →
      isMark c = false ∧ ∀ n ∈ targets, isMark (Char.ofNat n) = false := by
    intro c targets hlookup
    obtain ⟨before, after, hsplit, _⟩ := List.lookup_eq_some_iff.mp hlookup
    have havoids := hexpansions (c.toNat, targets) (by simp [hsplit])
    simpa using havoids
  have hrun : ∀ c run, runs.find? (·.covers c.toNat) = some run →
      isMark c = false ∧ isMark (Char.ofNat (c.toNat + run.shift).toNat) = false := by
    intro c run hfind
    have hcovers := List.find?_some hfind
    exact not_mark_of_run (hruns run (List.mem_of_find?_eq_some hfind)) hcovers
  constructor
  · intro c hc
    rw [mapCase]
    split
    · next targets hlookup => rw [(hlisted c targets hlookup).1] at hc; cases hc
    · split
      · next run hfind => rw [(hrun c run hfind).1] at hc; cases hc
      · rfl
  · intro c hc d hd
    rw [mapCase] at hd
    split at hd
    · next targets hlookup =>
      obtain ⟨n, hn, rfl⟩ := List.mem_map.mp hd
      exact (hlisted c targets hlookup).2 n hn
    · split at hd
      · next run hfind => rw [List.mem_singleton.mp hd]; exact (hrun c run hfind).2
      · rwa [List.mem_singleton.mp hd]

theorem toUpper_leavesMarks : ∀ n < 128,
    (isMark (Char.ofNat n) = true → (Char.ofNat n).toUpper = Char.ofNat n) ∧
      (isMark (Char.ofNat n) = false → isMark (Char.ofNat n).toUpper = false) := by
  decide +kernel

theorem toLower_leavesMarks : ∀ n < 128,
    (isMark (Char.ofNat n) = true → (Char.ofNat n).toLower = Char.ofNat n) ∧
      (isMark (Char.ofNat n) = false → isMark (Char.ofNat n).toLower = false) := by
  decide +kernel

/-- A change of ASCII characters one by one and of all others by tables. -/
theorem leavesMarks_ite {ascii : Char → Char} {others : Char → List Char}
    (hascii : ∀ n < 128, (isMark (Char.ofNat n) = true → ascii (Char.ofNat n) = Char.ofNat n) ∧
      (isMark (Char.ofNat n) = false → isMark (ascii (Char.ofNat n)) = false))
    (hothers : LeavesMarks others) :
    LeavesMarks fun c => if c.toNat < 128 then [ascii c] else others c := by
  have htable : ∀ c : Char, c.toNat < 128 → (isMark c = true → ascii c = c) ∧
      (isMark c = false → isMark (ascii c) = false) := by
    intro c hc
    have hentry := hascii c.toNat hc
    rwa [Char.ofNat_toNat] at hentry
  constructor
  · intro c hc
    split
    · next hsmall => rw [(htable c hsmall).1 hc]
    · exact hothers.of_mark c hc
  · intro c hc d hd
    split at hd
    · next hsmall => rw [List.mem_singleton.mp hd]; exact (htable c hsmall).2 hc
    · exact hothers.of_other c hc d hd

theorem leavesMarks_upperChar : LeavesMarks upperChar :=
  leavesMarks_ite toUpper_leavesMarks (leavesMarks_mapCase upperTable_avoidsMarks)

theorem leavesMarks_lowerChar : LeavesMarks lowerChar :=
  leavesMarks_ite toLower_leavesMarks (leavesMarks_mapCase lowerTable_avoidsMarks)

/-! ### Texts -/

theorem upperChars_cons (c : Char) (cs : List Char) : upperChars (c :: cs) = upperChar c ++ upperChars cs :=
  rfl

theorem countP_upperChars (cs : List Char) : (upperChars cs).countP isMark = cs.countP isMark := by
  induction cs with
  | nil => rfl
  | cons c cs ih =>
    rw [upperChars_cons, List.countP_append, leavesMarks_upperChar.countP, ih, ← List.countP_append,
      List.singleton_append]

theorem countP_lowerFrom (afterCased : Bool) (cs : List Char) :
    (lowerFrom afterCased cs).countP isMark = cs.countP isMark := by
  induction cs generalizing afterCased with
  | nil => rfl
  | cons c cs ih =>
    have hhere : (if c = capitalSigma then [lowerSigma afterCased cs] else lowerChar c).countP isMark =
        [c].countP isMark := by
      split
      · next hsigma =>
        rw [hsigma, lowerSigma]
        split <;> decide
      · exact leavesMarks_lowerChar.countP c
    rw [lowerFrom, List.countP_append, hhere, ih, ← List.countP_append, List.singleton_append]

theorem upperExpansions_ne_nil : upperExpansions.all (fun e => !e.2.isEmpty) = true := by
  decide +kernel

theorem upperChar_ne_nil (c : Char) : upperChar c ≠ [] := by
  rw [upperChar]
  split
  · simp
  · rw [mapCase]
    split
    · next targets hlookup =>
      obtain ⟨before, after, hsplit, _⟩ := List.lookup_eq_some_iff.mp hlookup
      have hall := List.all_eq_true.mp upperExpansions_ne_nil (c.toNat, targets) (by simp [hsplit])
      intro hnil
      simp [List.map_eq_nil_iff.mp hnil] at hall
    · split <;> simp

theorem upperChars_ne_nil {cs : List Char} (h : cs ≠ []) : upperChars cs ≠ [] := by
  obtain ⟨c, cs, rfl⟩ := List.exists_cons_of_ne_nil h
  have hc := upperChar_ne_nil c
  simp [upperChars, hc]

theorem eq_of_mark_mem_upperChar {c mark : Char} (hmark : isMark mark = true) (h : mark ∈ upperChar c) :
    c = mark := by
  cases hc : isMark c with
  | true =>
    rw [leavesMarks_upperChar.of_mark c hc] at h
    exact (List.mem_singleton.mp h).symm
  | false =>
    rw [leavesMarks_upperChar.of_other c hc mark h] at hmark
    cases hmark

theorem head?_upperChars_quote {cs : List Char} (h : (upperChars cs).head? = some '"') :
    cs.head? = some '"' := by
  cases cs with
  | nil => simp [upperChars] at h
  | cons c cs =>
    obtain ⟨d, ds, hd⟩ := List.exists_cons_of_ne_nil (upperChar_ne_nil c)
    have hq : d = '"' := by simpa [upperChars, hd] using h
    have hc : c = '"' := eq_of_mark_mem_upperChar (by decide) (by simp [hd, hq])
    simp [hc]

/-- A mark in upper case is where it was, between the same parts. -/
theorem upperChars_eq_append_cons {cs xs ys : List Char} {mark : Char} (hmark : isMark mark = true)
    (h : upperChars cs = xs ++ mark :: ys) :
    ∃ before after, cs = before ++ mark :: after ∧ upperChars before = xs ∧ upperChars after = ys := by
  induction cs generalizing xs with
  | nil => simp [upperChars] at h
  | cons c cs ih =>
    rw [upperChars_cons] at h
    rcases List.append_eq_append_iff.mp h with ⟨front, hfront, hrest⟩ | ⟨back, hback, hrest⟩
    · obtain ⟨before, after, rfl, hbefore, hafter⟩ := ih hrest
      exact ⟨c :: before, after, rfl, by rw [hfront, ← hbefore]; rfl, hafter⟩
    · cases back with
      | nil =>
        have hnext : upperChars cs = [] ++ mark :: ys := hrest.symm
        obtain ⟨before, after, rfl, hbefore, hafter⟩ := ih hnext
        refine ⟨c :: before, after, rfl, ?_, hafter⟩
        rw [upperChars_cons, hbefore, hback, List.append_nil, List.append_nil]
      | cons b back =>
        obtain ⟨rfl, rfl⟩ := List.cons.inj hrest
        obtain rfl := eq_of_mark_mem_upperChar hmark (by rw [hback]; simp)
        rw [leavesMarks_upperChar.of_mark c hmark] at hback
        cases xs with
        | nil =>
          obtain rfl := (List.cons.inj hback).2
          exact ⟨[], cs, rfl, rfl, rfl⟩
        | cons x xs => simp at hback

/-! ### Single characters in upper case -/

/-- Upper case makes these characters only of characters among them, one of each. -/
def isUpperClosed (cs : List Char) : Bool :=
  ((List.range 128).all fun n => !cs.contains (Char.ofNat n).toUpper || cs.contains (Char.ofNat n)) &&
    upperRuns.all fun run => cs.all fun c => 0 < c.toNat &&
      (!run.covers (c.toNat - run.shift).toNat || cs.contains (Char.ofNat (c.toNat - run.shift).toNat))

theorem upperExpansions_several : upperExpansions.all (fun e => 2 ≤ e.2.length) = true := by
  decide +kernel

theorem mem_of_upperChar {cs : List Char} (hclosed : isUpperClosed cs = true) {c d : Char} (hd : d ∈ cs)
    (h : upperChar c = [d]) : c ∈ cs := by
  simp only [isUpperClosed, Bool.and_eq_true, List.all_eq_true, List.mem_range, Bool.or_eq_true,
    Bool.not_eq_true', List.contains_iff_mem, decide_eq_true_eq] at hclosed
  obtain ⟨hascii, hruns⟩ := hclosed
  rw [upperChar] at h
  split at h
  · next hsmall =>
    have hc := hascii c.toNat hsmall
    rw [Char.ofNat_toNat, (List.cons.inj h).1] at hc
    simpa [hd] using hc
  · rw [mapCase] at h
    split at h
    · next targets hlookup =>
      obtain ⟨before, after, hsplit, -⟩ := List.lookup_eq_some_iff.mp hlookup
      have hlength := List.all_eq_true.mp upperExpansions_several (c.toNat, targets) (by simp [hsplit])
      have hone := congrArg List.length h
      simp only [List.length_map, List.length_singleton] at hone
      simp [hone] at hlength
    · split at h
      · next run hfind =>
        obtain ⟨hpos, hsource⟩ := hruns run (List.mem_of_find?_eq_some hfind) d hd
        have hsame : (c.toNat + run.shift).toNat = d.toNat := by
          have htarget := toNat_ofNat (c.toNat + run.shift).toNat
          rw [(List.cons.inj h).1] at htarget
          omega
        have hc : (d.toNat - run.shift).toNat = c.toNat := by omega
        rw [hc, Char.ofNat_toNat, List.find?_some hfind] at hsource
        simpa using hsource
      · rwa [(List.cons.inj h).1]

end SqlBuilder.Text
