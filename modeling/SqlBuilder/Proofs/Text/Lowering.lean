import SqlBuilder.Proofs.Text.Case

/-!
Changes to lower case. Main statements: a text in lower case stays as it is when it is put in lower case
again, and a character that nothing is put in lower case to stands in such a text only if it stood there before.
-/

namespace SqlBuilder.Text

/-! ### Where the table leads to -/

/-- A character stays as it is, or is listed with what it becomes, or goes along a run. -/
theorem mapCase_cases (expansions : List (Nat × List Nat)) (runs : List CaseRun) (c : Char) :
    mapCase expansions runs c = [c] ∨
      (∃ e ∈ expansions, mapCase expansions runs c = e.2.map Char.ofNat) ∨
        ∃ run ∈ runs, run.covers c.toNat = true ∧
          mapCase expansions runs c = [Char.ofNat (c.toNat + run.shift).toNat] := by
  unfold mapCase
  split
  · rename_i targets hlookup
    obtain ⟨before, after, hsplit, -⟩ := List.lookup_eq_some_iff.mp hlookup
    exact .inr (.inl ⟨(c.toNat, targets), by simp [hsplit], rfl⟩)
  · split
    · rename_i run hfind
      have hcovers := List.find?_some hfind
      exact .inr (.inr ⟨run, List.mem_of_find?_eq_some hfind, hcovers, rfl⟩)
    · exact .inl rfl

/-- A small character, or one without case. -/
def isLowered (c : Char) : Bool :=
  lowerChar c == [c]

/-! ### Code points as bits -/

/-- The code points of this parity that a run may cover, each halved, as the bits of a number. -/
def CaseRun.halves (parity : Nat) (run : CaseRun) : Nat :=
  if run.step == 2 && run.first % 2 != parity then 0
  else
    let low := (run.first + 1 - parity) / 2
    (1 <<< ((run.last - parity) / 2 + 1 - low) - 1) <<< low

def halvesOf (parity : Nat) (runs : List CaseRun) : Nat :=
  runs.foldr (fun run bits => run.halves parity ||| bits) 0

theorem CaseRun.bounds_of_covers {run : CaseRun} {n : Nat} (h : run.covers n = true) :
    run.first ≤ n ∧ n ≤ run.last := by
  simp only [covers, Bool.and_eq_true, decide_eq_true_eq] at h
  exact h.1

theorem CaseRun.testBit_halves {run : CaseRun} {n : Nat} (h : run.covers n = true) :
    (run.halves (n % 2)).testBit (n / 2) = true := by
  simp only [covers, Bool.and_eq_true, decide_eq_true_eq, beq_iff_eq] at h
  obtain ⟨⟨hfirst, hlast⟩, hstep⟩ := h
  have hparity : (run.step == 2 && run.first % 2 != n % 2) = false := by
    rw [Bool.and_eq_false_imp, beq_iff_eq]
    intro htwo
    rw [htwo] at hstep
    rw [bne_eq_false_iff_eq]
    omega
  rw [halves, hparity]
  simp only [Bool.false_eq_true, if_false, Nat.one_shiftLeft, Nat.testBit_shiftLeft,
    Nat.testBit_two_pow_sub_one, Bool.and_eq_true, decide_eq_true_eq]
  omega

theorem testBit_halvesOf {runs : List CaseRun} {run : CaseRun} (hrun : run ∈ runs) {n : Nat}
    (h : run.covers n = true) : (halvesOf (n % 2) runs).testBit (n / 2) = true := by
  induction runs with
  | nil => cases hrun
  | cons first runs ih =>
    rw [halvesOf, List.foldr_cons, Nat.testBit_or, Bool.or_eq_true]
    obtain rfl | hrest := List.mem_cons.mp hrun
    · exact .inl (CaseRun.testBit_halves h)
    · exact .inr (ih hrest)

theorem mod_two_mem (n : Nat) : n % 2 ∈ [0, 1] := by
  rw [List.mem_cons, List.mem_singleton]
  omega

/-- Runs without a common bit cover no common code point. -/
theorem CaseRun.not_covers_of_apart {run other : CaseRun} {runs : List CaseRun}
    (hapart : ([0, 1].all fun parity => run.halves parity &&& halvesOf parity runs == 0) = true)
    (hother : other ∈ runs) {n : Nat} (hn : run.covers n = true) : other.covers n = false := by
  rw [Bool.eq_false_iff]
  intro hcovers
  have hshared : (run.halves (n % 2) &&& halvesOf (n % 2) runs).testBit (n / 2) = true := by
    rw [Nat.testBit_and, testBit_halves hn, testBit_halvesOf hother hcovers]
    rfl
  have hzero := List.all_eq_true.mp hapart (n % 2) (mod_two_mem n)
  rw [beq_iff_eq.mp hzero, Nat.zero_testBit] at hshared
  cases hshared

/-- The code points that a run leads to. -/
def CaseRun.led (run : CaseRun) : CaseRun where
  first := (run.first + run.shift).toNat
  last := (run.last + run.shift).toNat
  step := run.step
  shift := 0

theorem CaseRun.covers_led {run : CaseRun} {n : Nat} (h : run.covers n = true)
    (hpositive : 0 < run.led.first) : run.led.covers ((n : Int) + run.shift).toNat = true := by
  simp only [covers, led, Bool.and_eq_true, decide_eq_true_eq, beq_iff_eq] at h hpositive ⊢
  obtain ⟨⟨hfirst, hlast⟩, hstep⟩ := h
  have hdistance : ((n : Int) + run.shift).toNat - (run.first + run.shift).toNat = n - run.first := by omega
  rw [hdistance]
  exact ⟨⟨decide_eq_true (by omega), decide_eq_true (by omega)⟩, hstep⟩

/-! ### What is small stays small -/

/-- The run leads to code points without a small form, or to a single character in lower case. -/
def CaseRun.leadsDown (run : CaseRun) : Bool :=
  (Nat.ble 128 run.led.first &&
      (lowerExpansions.all fun e => run.led.last.blt e.1 || e.1.blt run.led.first) &&
      ([0, 1].all fun parity => run.led.halves parity &&& halvesOf parity lowerRuns == 0)) ||
    (run.first == run.last && isLowered (Char.ofNat run.led.first))

/-- What the tables, the small sigmas and the ASCII letters lead to. -/
structure LowersOnce : Prop where
  /-- No run leads to the first character, which stands for what is none. -/
  positive : (lowerRuns.all fun run => Nat.ble 1 run.led.first) = true
  runs : lowerRuns.all CaseRun.leadsDown = true
  expansions : (lowerExpansions.all fun e => !e.2.isEmpty && e.2.all fun n => isLowered (Char.ofNat n)) = true
  ascii : ∀ n < 128, isLowered (Char.ofNat n).toLower = true ∧
    ((Char.ofNat n).toLower = Char.ofNat n ∨
      'a'.toNat ≤ (Char.ofNat n).toLower.toNat ∧ (Char.ofNat n).toLower.toNat ≤ 'z'.toNat)
  sigmas : isLowered 'σ' = true ∧ isLowered 'ς' = true ∧ isLowered capitalSigma = false

theorem lowersOnce : LowersOnce where
  positive := by decide +kernel
  runs := by decide +kernel
  expansions := by decide +kernel
  ascii := by decide +kernel
  sigmas := by decide +kernel

theorem led_positive {run : CaseRun} (h : run ∈ lowerRuns) : 0 < run.led.first := by
  have hpositive := List.all_eq_true.mp lowersOnce.positive run h
  rwa [Nat.ble_eq] at hpositive

theorem lowered_of_expansion {e : Nat × List Nat} (h : e ∈ lowerExpansions) :
    e.2 ≠ [] ∧ ∀ n ∈ e.2, isLowered (Char.ofNat n) = true := by
  have hentry := List.all_eq_true.mp lowersOnce.expansions e h
  simpa using hentry

theorem lookup_lowerExpansions_eq_none {first last : Nat}
    (hbeside : (lowerExpansions.all fun e => last.blt e.1 || e.1.blt first) = true) {n : Nat}
    (hn : first ≤ n ∧ n ≤ last) : lowerExpansions.lookup n = none := by
  rw [List.lookup_eq_none_iff]
  intro e he
  have hentry := List.all_eq_true.mp hbeside e he
  simp only [Bool.or_eq_true, Nat.blt_eq] at hentry
  rw [bne_iff_ne]
  omega

/-- What no entry of the table covers has no small form. -/
theorem CaseRun.lowered_of_apart {run : CaseRun} (hlow : 128 ≤ run.first)
    (hexpansions : (lowerExpansions.all fun e => run.last.blt e.1 || e.1.blt run.first) = true)
    (hapart : ([0, 1].all fun parity => run.halves parity &&& halvesOf parity lowerRuns == 0) = true) {n : Nat}
    (hn : run.covers n = true) : isLowered (Char.ofNat n) = true := by
  have hrange := bounds_of_covers hn
  have hsingle := lookup_lowerExpansions_eq_none hexpansions hrange
  have hfind : lowerRuns.find? (·.covers n) = none :=
    List.find?_eq_none.mpr fun other hother => by simp [not_covers_of_apart hapart hother hn]
  obtain hm | hm := toNat_ofNat n
  · rw [isLowered, lowerChar, hm, if_neg (by omega), mapCase, hm, hsingle]
    simp only [hfind, beq_self_eq_true]
  · -- What is no character is taken as the first one.
    rw [isLowered, lowerChar, hm, if_pos (by decide)]
    rw [← Char.ofNat_toNat (Char.ofNat n), hm]
    rfl

/-- Small characters stay as they are. -/
theorem CaseRun.lowered_of_leadsDown {run : CaseRun} (h : run.leadsDown = true) {n : Nat}
    (hn : run.covers n = true) : isLowered (Char.ofNat ((n : Int) + run.shift).toNat) = true := by
  simp only [leadsDown, Bool.or_eq_true, Bool.and_eq_true] at h
  obtain ⟨⟨hlow, hexpansions⟩, hapart⟩ | ⟨hsingle, hlowered⟩ := h
  · rw [Nat.ble_eq] at hlow
    have hled : run.led.covers ((n : Int) + run.shift).toNat = true :=
      covers_led hn (Nat.lt_of_lt_of_le (by decide) hlow)
    exact lowered_of_apart hlow hexpansions hapart hled
  · have hbounds := bounds_of_covers hn
    rw [beq_iff_eq] at hsingle
    have hn : n = run.first := by omega
    rwa [hn]

theorem isLowered_of_mem_lowerChar {c d : Char} (h : d ∈ lowerChar c) : isLowered d = true := by
  unfold lowerChar at h
  split at h
  · rename_i hsmall
    have hentry := lowersOnce.ascii c.toNat hsmall
    rw [Char.ofNat_toNat] at hentry
    rw [List.mem_singleton.mp h]
    exact hentry.1
  · rename_i hlarge
    obtain hsame | ⟨e, he, hlisted⟩ | ⟨run, hrun, hcovers, hled⟩ :=
      mapCase_cases lowerExpansions lowerRuns c
    · rw [hsame] at h
      obtain rfl := List.mem_singleton.mp h
      rw [isLowered, lowerChar, if_neg hlarge, hsame, beq_iff_eq]
    · rw [hlisted] at h
      obtain ⟨n, hn, rfl⟩ := List.mem_map.mp h
      exact (lowered_of_expansion he).2 n hn
    · rw [hled] at h
      rw [List.mem_singleton.mp h]
      exact CaseRun.lowered_of_leadsDown (List.all_eq_true.mp lowersOnce.runs run hrun) hcovers

/-! ### Texts in lower case -/

theorem lowered_lowerFrom (afterCased : Bool) (cs : List Char) :
    ∀ d ∈ lowerFrom afterCased cs, isLowered d = true := by
  induction cs generalizing afterCased with
  | nil => simp [lowerFrom]
  | cons c cs ih =>
    rw [lowerFrom, List.forall_mem_append]
    refine ⟨fun d hd => ?_, ih _⟩
    split at hd
    · rw [List.mem_singleton.mp hd, lowerSigma]
      split
      · exact lowersOnce.sigmas.2.1
      · exact lowersOnce.sigmas.1
    · exact isLowered_of_mem_lowerChar hd

theorem lowerFrom_of_lowered {cs : List Char} (h : ∀ c ∈ cs, isLowered c = true) (afterCased : Bool) :
    lowerFrom afterCased cs = cs := by
  induction cs generalizing afterCased with
  | nil => rfl
  | cons c cs ih =>
    rw [List.forall_mem_cons] at h
    -- A capital sigma is not lowered, so no sigma depends on what stands around it.
    have hsigma : c ≠ capitalSigma := by
      rintro rfl
      rw [lowersOnce.sigmas.2.2] at h
      cases h.1
    rw [lowerFrom, if_neg hsigma, beq_iff_eq.mp h.1, ih h.2, List.singleton_append]

/-- Lower case is reached once. -/
theorem lowerChars_lowerChars (cs : List Char) : lowerChars (lowerChars cs) = lowerChars cs :=
  lowerFrom_of_lowered (lowered_lowerFrom false cs) false

theorem lowerChar_ne_nil (c : Char) : lowerChar c ≠ [] := by
  unfold lowerChar
  split
  · exact List.cons_ne_nil _ _
  · obtain hsame | ⟨e, he, hlisted⟩ | ⟨run, -, -, hled⟩ := mapCase_cases lowerExpansions lowerRuns c
    · rw [hsame]
      exact List.cons_ne_nil _ _
    · rw [hlisted]
      simpa using (lowered_of_expansion he).1
    · rw [hled]
      exact List.cons_ne_nil _ _

theorem lowerChars_ne_nil {cs : List Char} (h : cs ≠ []) : lowerChars cs ≠ [] := by
  obtain ⟨c, cs, rfl⟩ := List.exists_cons_of_ne_nil h
  rw [lowerChars, lowerFrom]
  refine List.append_ne_nil_of_left_ne_nil ?_ _
  split
  · exact List.cons_ne_nil _ _
  · exact lowerChar_ne_nil c

/-! ### Characters that nothing is put in lower case to -/

/-- None of the code points comes of a change to lower case, unless it was there. -/
structure LowersNone (marks : List Nat) : Prop where
  letters : ∀ n ∈ marks, n < 'a'.toNat ∨ 'z'.toNat < n
  sigmas : 'σ'.toNat ∉ marks ∧ 'ς'.toNat ∉ marks
  expansions : ∀ e ∈ lowerExpansions, ∀ n ∈ e.2, (Char.ofNat n).toNat ∉ marks
  runs : (marks.all fun n => Nat.ble 1 n && [0, 1].all fun parity =>
    n % 2 != parity || !(halvesOf parity (lowerRuns.map CaseRun.led)).testBit (n / 2)) = true

variable {marks : List Nat}

theorem LowersNone.leads_elsewhere (h : LowersNone marks) {run : CaseRun} (hrun : run ∈ lowerRuns) {n : Nat}
    (hn : run.covers n = true) : (Char.ofNat ((n : Int) + run.shift).toNat).toNat ∉ marks := by
  intro hmark
  have hapart := List.all_eq_true.mp h.runs _ hmark
  rw [Bool.and_eq_true, Nat.ble_eq] at hapart
  obtain htarget | hnone := toNat_ofNat ((n : Int) + run.shift).toNat
  · have hled : run.led.covers ((n : Int) + run.shift).toNat = true :=
      CaseRun.covers_led hn (led_positive hrun)
    rw [htarget] at hapart
    have hclear := List.all_eq_true.mp hapart.2 _ (mod_two_mem ((n : Int) + run.shift).toNat)
    simp [testBit_halvesOf (List.mem_map_of_mem hrun) hled] at hclear
  · omega

theorem LowersNone.eq_of_mem_lowerChar (h : LowersNone marks) {c d : Char} (hd : d ∈ lowerChar c)
    (hmark : d.toNat ∈ marks) : c = d := by
  unfold lowerChar at hd
  split at hd
  · rename_i hsmall
    obtain rfl := List.mem_singleton.mp hd
    have hentry := lowersOnce.ascii c.toNat hsmall
    rw [Char.ofNat_toNat] at hentry
    refine (hentry.2.resolve_right fun hletter => ?_).symm
    obtain hbelow | habove := h.letters _ hmark
    · exact Nat.not_le_of_gt hbelow hletter.1
    · exact Nat.not_le_of_gt habove hletter.2
  · obtain hsame | ⟨e, he, hlisted⟩ | ⟨run, hrun, hcovers, hled⟩ :=
      mapCase_cases lowerExpansions lowerRuns c
    · rw [hsame] at hd
      exact (List.mem_singleton.mp hd).symm
    · rw [hlisted] at hd
      obtain ⟨n, hn, rfl⟩ := List.mem_map.mp hd
      exact absurd hmark (h.expansions e he n hn)
    · rw [hled] at hd
      obtain rfl := List.mem_singleton.mp hd
      exact absurd hmark (h.leads_elsewhere hrun hcovers)

/-- A mark in a text in lower case stood in the text before. -/
theorem LowersNone.mem_of_mem_lowerFrom (h : LowersNone marks) {d : Char} (hmark : d.toNat ∈ marks)
    {afterCased : Bool} {cs : List Char} (hd : d ∈ lowerFrom afterCased cs) : d ∈ cs := by
  induction cs generalizing afterCased with
  | nil => exact hd
  | cons c cs ih =>
    rw [lowerFrom, List.mem_append] at hd
    obtain hhere | hrest := hd
    · split at hhere
      · have hsigma : d = 'σ' ∨ d = 'ς' := by
          rw [List.mem_singleton.mp hhere, lowerSigma]
          split <;> simp
        obtain rfl | rfl := hsigma
        · exact absurd hmark h.sigmas.1
        · exact absurd hmark h.sigmas.2
      · exact List.mem_cons.mpr (.inl (h.eq_of_mem_lowerChar hhere hmark).symm)
    · exact List.mem_cons_of_mem c (ih hrest)

/-- A mark in front stood in front before. -/
theorem LowersNone.head?_of_lowerChars (h : LowersNone marks) {d : Char} (hmark : d.toNat ∈ marks)
    {cs : List Char} (hd : (lowerChars cs).head? = some d) : cs.head? = some d := by
  cases cs with
  | nil => exact hd
  | cons c cs =>
    -- What is in front comes of the first character alone.
    rw [lowerChars, lowerFrom] at hd
    split at hd
    · have hsigma : d = 'σ' ∨ d = 'ς' := by
        rw [List.singleton_append, List.head?_cons, Option.some.injEq] at hd
        rw [← hd, lowerSigma]
        split <;> simp
      obtain rfl | rfl := hsigma
      · exact absurd hmark h.sigmas.1
      · exact absurd hmark h.sigmas.2
    · obtain ⟨e, es, he⟩ := List.exists_cons_of_ne_nil (lowerChar_ne_nil c)
      rw [he, List.cons_append, List.head?_cons, Option.some.injEq] at hd
      have hmem : d ∈ lowerChar c := by simp [he, hd]
      rw [h.eq_of_mem_lowerChar hmem hmark, List.head?_cons]

end SqlBuilder.Text
