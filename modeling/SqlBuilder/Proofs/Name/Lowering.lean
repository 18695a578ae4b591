import SqlBuilder.Proofs.Name.Folding
import SqlBuilder.Proofs.Text.Lowering

/-!
Names in lower case. Main statements: quotes, dots and blanks stay where they were, and no word `as` comes of
anything else, so that a name that is not cut is not cut in lower case either.
-/

namespace SqlBuilder

namespace Text

/-! ### Character by character -/

/-- What a character may become in lower case, a sigma depending on what stands around it. -/
inductive LowersTo (c : Char) : List Char → Prop
  | char : LowersTo c (lowerChar c)
  | sigma {d : Char} : c = capitalSigma → d = 'σ' ∨ d = 'ς' → LowersTo c [d]

theorem lowerFrom_cons (afterCased : Bool) (c : Char) (cs : List Char) :
    ∃ piece after, LowersTo c piece ∧ lowerFrom afterCased (c :: cs) = piece ++ lowerFrom after cs := by
  refine ⟨_, _, ?_, rfl⟩
  split
  · next hsigma =>
    refine .sigma hsigma ?_
    rw [lowerSigma]
    split <;> simp
  · exact .char

theorem LowersTo.of_mark {c : Char} {piece : List Char} (h : LowersTo c piece) (hmark : isMark c = true) :
    piece = [c] := by
  cases h with
  | char => exact leavesMarks_lowerChar.of_mark c hmark
  | sigma hsigma =>
    rw [hsigma] at hmark
    exact absurd hmark (by decide)

theorem LowersTo.of_other {c : Char} {piece : List Char} (h : LowersTo c piece) (hmark : isMark c = false) :
    ∀ d ∈ piece, isMark d = false := by
  cases h with
  | char => exact leavesMarks_lowerChar.of_other c hmark
  | sigma _ hd =>
    intro e he
    rw [List.mem_singleton.mp he]
    rcases hd with rfl | rfl <;> decide

theorem LowersTo.eq_of_mark_mem {c mark : Char} {piece : List Char} (h : LowersTo c piece)
    (hmark : isMark mark = true) (hmem : mark ∈ piece) : c = mark := by
  cases hc : isMark c with
  | true =>
    rw [h.of_mark hc] at hmem
    exact (List.mem_singleton.mp hmem).symm
  | false =>
    rw [h.of_other hc mark hmem] at hmark
    cases hmark

theorem LowersTo.ne_nil {c : Char} {piece : List Char} (h : LowersTo c piece) : piece ≠ [] := by
  cases h with
  | char => exact lowerChar_ne_nil c
  | sigma => exact List.cons_ne_nil _ _

/-! ### Characters of their own -/

/-- Characters with such a property come in lower case only of single characters that have it, too. -/
structure LowersAmong (p : Char → Prop) : Prop where
  chars : ∀ c d, d ∈ lowerChar c → p d → p c ∧ lowerChar c = [d]
  sigmas : ¬ p 'σ' ∧ ¬ p 'ς'

theorem LowersAmong.eq_cons {p : Char → Prop} (h : LowersAmong p) {afterCased : Bool} {cs rest : List Char}
    {d : Char} (hd : p d) (hlower : lowerFrom afterCased cs = d :: rest) :
    ∃ c cs' after, cs = c :: cs' ∧ p c ∧ rest = lowerFrom after cs' := by
  cases cs with
  | nil => cases hlower
  | cons c cs =>
    obtain ⟨piece, after, hpiece, hcons⟩ := lowerFrom_cons afterCased c cs
    rw [hcons] at hlower
    cases hpiece with
    | char =>
      obtain ⟨e, es, he⟩ := List.exists_cons_of_ne_nil (lowerChar_ne_nil c)
      rw [he, List.cons_append] at hlower
      obtain ⟨rfl, hrest⟩ := List.cons.inj hlower
      obtain ⟨hc, hsingle⟩ := h.chars c e (by simp [he]) hd
      obtain ⟨-, rfl⟩ := List.cons.inj (he.symm.trans hsingle)
      exact ⟨c, cs, after, rfl, hc, hrest.symm⟩
    | sigma _ hsigma =>
      obtain ⟨rfl, -⟩ := List.cons.inj hlower
      rcases hsigma with rfl | rfl
      · exact absurd hd h.sigmas.1
      · exact absurd hd h.sigmas.2

theorem lowersAmong_of_marks {p : Char → Prop} (h : ∀ c, p c → isMark c = true) : LowersAmong p where
  chars c d hd hp := by
    have hmark := h d hp
    obtain rfl := LowersTo.char.eq_of_mark_mem hmark hd
    exact ⟨hp, leavesMarks_lowerChar.of_mark c hmark⟩
  sigmas := ⟨fun hp => absurd (h _ hp) (by decide), fun hp => absurd (h _ hp) (by decide)⟩

theorem lowersAmong_blanks : LowersAmong (isBlank · = true) :=
  lowersAmong_of_marks fun _ => isMark_of_isBlank

/-- No run leads to these letters and no character is listed with one of them; in ASCII they come of each other. -/
structure LettersAlone (letters : List Char) : Prop where
  ascii : ∀ n < 128, (Char.ofNat n).toLower ∈ letters → Char.ofNat n ∈ letters
  expansions : ∀ e ∈ lowerExpansions, ∀ n ∈ e.2, Char.ofNat n ∉ letters
  runs : (letters.all fun c => Nat.ble 1 c.toNat && [0, 1].all fun parity =>
    c.toNat % 2 != parity || !(halvesOf parity (lowerRuns.map CaseRun.led)).testBit (c.toNat / 2)) = true
  sigmas : 'σ' ∉ letters ∧ 'ς' ∉ letters

theorem LettersAlone.lowersAmong {letters : List Char} (h : LettersAlone letters) : LowersAmong (· ∈ letters) where
  chars c d hd hmem := by
    unfold lowerChar at hd ⊢
    split at hd
    · next hsmall =>
      obtain rfl := List.mem_singleton.mp hd
      have hc := h.ascii c.toNat hsmall
      rw [Char.ofNat_toNat] at hc
      rw [if_pos hsmall]
      exact ⟨hc hmem, rfl⟩
    · next hlarge =>
      rw [if_neg hlarge]
      obtain hsame | ⟨e, he, hlisted⟩ | ⟨run, hrun, hcovers, hled⟩ :=
        mapCase_cases lowerExpansions lowerRuns c
      · rw [hsame] at hd ⊢
        obtain rfl := List.mem_singleton.mp hd
        exact ⟨hmem, rfl⟩
      · rw [hlisted] at hd
        obtain ⟨n, hn, rfl⟩ := List.mem_map.mp hd
        exact absurd hmem (h.expansions e he n hn)
      · rw [hled] at hd
        obtain rfl := List.mem_singleton.mp hd
        have hapart := List.all_eq_true.mp h.runs _ hmem
        rw [Bool.and_eq_true, Nat.ble_eq] at hapart
        obtain htarget | hnone := toNat_ofNat ((c.toNat : Int) + run.shift).toNat
        · have hcovered : run.led.covers ((c.toNat : Int) + run.shift).toNat = true :=
            CaseRun.covers_led hcovers (led_positive hrun)
          rw [htarget] at hapart
          have hclear := List.all_eq_true.mp hapart.2 _ (mod_two_mem ((c.toNat : Int) + run.shift).toNat)
          simp [testBit_halvesOf (List.mem_map_of_mem hrun) hcovered] at hclear
        · omega
  sigmas := h.sigmas

theorem lettersAlone_a : LettersAlone ['a', 'A'] where
  ascii := by decide
  expansions := by decide
  runs := by decide +kernel
  sigmas := by decide

theorem lettersAlone_s : LettersAlone ['s', 'S', 'ſ'] where
  ascii := by decide
  expansions := by decide
  runs := by decide +kernel
  sigmas := by decide

theorem dropWhile_lowerFrom (afterCased : Bool) (cs : List Char) :
    ∃ after, (lowerFrom afterCased cs).dropWhile isBlank = lowerFrom after (cs.dropWhile isBlank) := by
  induction cs generalizing afterCased with
  | nil => exact ⟨false, rfl⟩
  | cons c cs ih =>
    obtain ⟨piece, after, hpiece, hcons⟩ := lowerFrom_cons afterCased c cs
    cases hc : isBlank c with
    | true =>
      rw [hcons, hpiece.of_mark (isMark_of_isBlank hc), List.singleton_append, List.dropWhile_cons_of_pos hc,
        List.dropWhile_cons_of_pos hc]
      exact ih after
    | false =>
      refine ⟨afterCased, ?_⟩
      obtain ⟨d, ds, hd⟩ := List.exists_cons_of_ne_nil hpiece.ne_nil
      have hfirst : isBlank d = false := by
        rw [Bool.eq_false_iff]
        intro hblank
        obtain rfl := hpiece.eq_of_mark_mem (isMark_of_isBlank hblank) (by simp [hd])
        rw [hc] at hblank
        cases hblank
      rw [List.dropWhile_cons_of_neg (by simp [hc]), hcons, hd, List.cons_append,
        List.dropWhile_cons_of_neg (by simp [hfirst])]

theorem trimLeft_lowerFrom {cs : List Char} (h : trimLeft cs = cs) (afterCased : Bool) :
    trimLeft (lowerFrom afterCased cs) = lowerFrom afterCased cs := by
  cases hlower : lowerFrom afterCased cs with
  | nil => rfl
  | cons d rest =>
    refine List.dropWhile_cons_of_neg fun hblank => ?_
    obtain ⟨c, cs, -, rfl, hc, -⟩ := lowersAmong_blanks.eq_cons hblank hlower
    have hdrop : cs.dropWhile isBlank = c :: cs := (List.dropWhile_cons_of_pos hc).symm.trans h
    have hlength := (List.dropWhile_suffix isBlank : cs.dropWhile isBlank <:+ cs).length_le
    rw [hdrop, List.length_cons] at hlength
    omega

end Text

namespace Name

open Text

/-! ### Quotes and dots -/

theorem quotedAfter_of_lowersTo {c : Char} {piece : List Char} (h : LowersTo c piece) (quoted : Bool) :
    quotedAfter quoted piece = if c = quoteMark then !quoted else quoted := by
  by_cases hc : c = quoteMark
  · rw [h.of_mark (by rw [hc]; decide), quotedAfter]
    rfl
  · rw [if_neg hc]
    exact quotedAfter_of_not_mem (fun hmem => hc (h.eq_of_mark_mem (by decide) hmem)) quoted

theorem quotedAfter_lowerFrom (quoted afterCased : Bool) (cs : List Char) :
    quotedAfter quoted (lowerFrom afterCased cs) = quotedAfter quoted cs := by
  induction cs generalizing quoted afterCased with
  | nil => rfl
  | cons c cs ih =>
    obtain ⟨piece, after, hpiece, hcons⟩ := lowerFrom_cons afterCased c cs
    rw [hcons, quotedAfter_append, quotedAfter_of_lowersTo hpiece, ih]
    rfl

theorem DotsQuoted.append {quoted : Bool} {xs ys : List Char} (hx : DotsQuoted quoted xs)
    (hy : DotsQuoted (quotedAfter quoted xs) ys) : DotsQuoted quoted (xs ++ ys) := by
  induction xs generalizing quoted with
  | nil => exact hy
  | cons x xs ih => exact dotsQuoted_cons hx.head (ih hx.tail hy)

theorem head?_lowerFrom_quote {cs : List Char} (h : cs.head? ≠ some quoteMark) (afterCased : Bool) :
    (lowerFrom afterCased cs).head? ≠ some quoteMark := by
  have hamong : LowersAmong (· = quoteMark) := by
    refine lowersAmong_of_marks ?_
    rintro _ rfl
    decide
  intro hhead
  obtain ⟨rest, hrest⟩ := List.head?_eq_some_iff.mp hhead
  obtain ⟨c, cs, -, rfl, rfl, -⟩ := hamong.eq_cons rfl hrest
  exact h rfl

theorem dotsQuoted_of_not_mem {cs : List Char} (h : '.' ∉ cs) (quoted : Bool) : DotsQuoted quoted cs := by
  intro before after hsplit
  exact absurd (by simp [hsplit]) h

theorem dotsQuoted_of_lowersTo {c : Char} {piece : List Char} (h : LowersTo c piece) {quoted : Bool}
    (hdot : c = '.' → quoted = true) : DotsQuoted quoted piece := by
  intro before after hsplit
  obtain rfl : c = '.' := h.eq_of_mark_mem (by decide) (by simp [hsplit])
  have hpiece := h.of_mark (by decide)
  rw [hsplit] at hpiece
  have hbefore : before = [] := by
    have hlength := congrArg List.length hpiece
    simp only [List.length_append, List.length_cons, List.length_nil] at hlength
    exact List.eq_nil_of_length_eq_zero (by omega)
  rw [hbefore]
  exact hdot rfl

theorem dotsQuoted_lowerFrom {quoted : Bool} {cs : List Char} (h : DotsQuoted quoted cs) (afterCased : Bool) :
    DotsQuoted quoted (lowerFrom afterCased cs) := by
  induction cs generalizing quoted afterCased with
  | nil => exact h
  | cons c cs ih =>
    obtain ⟨piece, after, hpiece, hcons⟩ := lowerFrom_cons afterCased c cs
    rw [hcons]
    refine (dotsQuoted_of_lowersTo hpiece h.head).append (ih ?_ after)
    rw [quotedAfter_of_lowersTo hpiece]
    exact h.tail

/-! ### The word between a reference and its alias -/

/-- A separator in lower case was one before. -/
theorem afterSeparator?_of_lowerFrom {c : Char} {cs after : List Char} (hc : isBlank c = true) {afterCased : Bool}
    (h : afterSeparator? (c :: lowerFrom afterCased cs) = some after) :
    ∃ after, afterSeparator? (c :: cs) = some after := by
  obtain ⟨-, a, s, blank, rest, hdrop, hword, hblank, -⟩ := afterSeparator?_eq_some_iff.mp h
  obtain ⟨ha, hs⟩ := isAliasWord_iff.mp hword
  obtain ⟨afterBlanks, hlower⟩ := dropWhile_lowerFrom afterCased cs
  rw [List.dropWhile_cons_of_pos hc, hlower] at hdrop
  obtain ⟨c₁, cs₁, after₁, h₁, hc₁, hrest₁⟩ := lettersAlone_a.lowersAmong.eq_cons ha hdrop
  obtain ⟨c₂, cs₂, after₂, h₂, hc₂, hrest₂⟩ := lettersAlone_s.lowersAmong.eq_cons hs hrest₁.symm
  obtain ⟨c₃, cs₃, after₃, h₃, hc₃, -⟩ := lowersAmong_blanks.eq_cons hblank hrest₂.symm
  refine ⟨cs₃.dropWhile isBlank, afterSeparator?_eq_some_iff.mpr ⟨hc, c₁, c₂, c₃, cs₃, ?_, ?_, hc₃, rfl⟩⟩
  · rw [List.dropWhile_cons_of_pos hc, h₁, h₂, h₃]
  · exact isAliasWord_iff.mpr ⟨hc₁, hc₂⟩

theorem cutAlias?_lowerFrom {cs : List Char} (h : cutAlias? cs = none) (afterCased : Bool) :
    cutAlias? (lowerFrom afterCased cs) = none := by
  induction cs generalizing afterCased with
  | nil => rfl
  | cons c cs ih =>
    obtain ⟨hnone, hrest⟩ : afterSeparator? (c :: cs) = none ∧ cutAlias? cs = none := by
      rw [cutAlias?] at h
      split at h
      · cases h
      · next hnone => exact ⟨hnone, Option.map_eq_none_iff.mp h⟩
    obtain ⟨piece, after, hpiece, hcons⟩ := lowerFrom_cons afterCased c cs
    rw [hcons]
    cases hc : isBlank c with
    | true =>
      rw [hpiece.of_mark (isMark_of_isBlank hc), List.singleton_append, cutAlias?]
      cases hfound : afterSeparator? (c :: lowerFrom after cs) with
      | some rest =>
        obtain ⟨rest', hgiven⟩ := afterSeparator?_of_lowerFrom hc hfound
        rw [hnone] at hgiven
        cases hgiven
      | none =>
        rw [ih hrest]
        rfl
    | false =>
      have hothers : ∀ d ∈ piece, isBlank d = false := by
        intro d hd
        rw [Bool.eq_false_iff]
        intro hblank
        obtain rfl := hpiece.eq_of_mark_mem (isMark_of_isBlank hblank) hd
        rw [hc] at hblank
        cases hblank
      rw [cutAlias?_append_of_not_blank hothers, ih hrest]
      rfl

end Name

end SqlBuilder
