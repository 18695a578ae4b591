import SqlBuilder.Proofs.Text.Lowering

/-!
Upper case of what was put in lower case before. Main statement: it can be told from the upper case alone, so that
texts which are the same in upper case are so again after both were put in lower case.
-/

namespace SqlBuilder.Text

/-- A character in lower case, put in upper case. -/
def recased (c : Char) : List Char :=
  upperChars (lowerChar c)

/-! ### Runs that lead back -/

/-- Every code point of the one run is one of the other. -/
def CaseRun.includes (run inner : CaseRun) : Bool :=
  Nat.ble run.first inner.first && Nat.ble inner.last run.last && (inner.first - run.first) % run.step == 0 &&
    (inner.step % run.step == 0 || inner.first == inner.last)

theorem CaseRun.covers_of_includes {run inner : CaseRun} (h : run.includes inner = true) {n : Nat}
    (hn : inner.covers n = true) : run.covers n = true := by
  simp only [includes, Bool.and_eq_true, Bool.or_eq_true, Nat.ble_eq, beq_iff_eq] at h
  simp only [covers, Bool.and_eq_true, decide_eq_true_eq, beq_iff_eq] at hn ⊢
  obtain ⟨⟨⟨hfirst, hlast⟩, hoffset⟩, hstep⟩ := h
  obtain ⟨⟨hlow, hhigh⟩, hn⟩ := hn
  refine ⟨⟨by omega, by omega⟩, ?_⟩
  have hsum : n - run.first = (n - inner.first) + (inner.first - run.first) := by omega
  have hinner : run.step ∣ n - inner.first := by
    obtain hdivides | hsingle := hstep
    · exact Nat.dvd_trans (Nat.dvd_of_mod_eq_zero hdivides) (Nat.dvd_of_mod_eq_zero hn)
    · have hzero : n - inner.first = 0 := by omega
      rw [hzero]
      exact Nat.dvd_zero _
  rw [hsum]
  exact Nat.mod_eq_zero_of_dvd (Nat.dvd_add hinner (Nat.dvd_of_mod_eq_zero hoffset))

/-- No code point is covered by two of the runs. -/
def apart : List CaseRun → Bool
  | [] => true
  | run :: runs => ([0, 1].all fun parity => run.halves parity &&& halvesOf parity runs == 0) && apart runs

theorem find?_of_apart {runs : List CaseRun} (h : apart runs = true) {run : CaseRun} (hrun : run ∈ runs) {n : Nat}
    (hn : run.covers n = true) : runs.find? (·.covers n) = some run := by
  induction runs with
  | nil => cases hrun
  | cons first runs ih =>
    rw [apart, Bool.and_eq_true] at h
    obtain rfl | hrest := List.mem_cons.mp hrun
    · exact List.find?_cons_of_pos hn
    · have hfirst : first.covers n = false := by
        rw [Bool.eq_false_iff]
        intro hcovers
        rw [CaseRun.not_covers_of_apart h.1 hrest hcovers] at hn
        cases hn
      rw [List.find?_cons_of_neg (by simp [hfirst])]
      exact ih h.2 hrest

/-! ### What upper case leads to -/

/-- The run covers only characters that have no small form. -/
def CaseRun.isSmall (run : CaseRun) : Bool :=
  Nat.ble 128 run.first && (lowerExpansions.all fun e => run.last.blt e.1 || e.1.blt run.first) &&
    [0, 1].all fun parity => run.halves parity &&& halvesOf parity lowerRuns == 0

/-- A run to lower case leads back from where the run leads to. -/
def CaseRun.isUndone (run : CaseRun) : Bool :=
  Nat.ble 128 run.led.first && (lowerExpansions.all fun e => run.led.last.blt e.1 || e.1.blt run.led.first) &&
    lowerRuns.any fun lower => lower.includes run.led && lower.shift == -run.shift

def CaseRun.codes (run : CaseRun) : List Nat :=
  (List.range ((run.last - run.first) / run.step + 1)).map fun i => run.first + i * run.step

theorem CaseRun.mem_codes {run : CaseRun} {n : Nat} (h : run.covers n = true) : n ∈ run.codes := by
  simp only [covers, Bool.and_eq_true, decide_eq_true_eq, beq_iff_eq] at h
  obtain ⟨⟨hfirst, hlast⟩, hstep⟩ := h
  refine List.mem_map.mpr ⟨(n - run.first) / run.step, ?_, ?_⟩
  · rw [List.mem_range]
    exact Nat.lt_succ_of_le (Nat.div_le_div_right (by omega))
  · have hdivides : (n - run.first) / run.step * run.step = n - run.first :=
      Nat.div_mul_cancel (Nat.dvd_of_mod_eq_zero hstep)
    omega

/-- What the tables and the ASCII letters lead to in upper case, by way of lower case and again. -/
structure UppersOnce : Prop where
  apart : apart lowerRuns = true
  sources : (upperRuns.all fun run => run.isSmall ||
    run.codes.all fun n => recased (Char.ofNat n) == [Char.ofNat ((n : Int) + run.shift).toNat]) = true
  targets : (upperRuns.all fun run => run.isSmall && run.isUndone || run.codes.all fun n =>
    recased (Char.ofNat ((n : Int) + run.shift).toNat) == [Char.ofNat ((n : Int) + run.shift).toNat]) = true
  expanded : (upperExpansions.all fun e => (CaseRun.mk e.1 e.1 1 0).isSmall ||
    recased (Char.ofNat e.1) == e.2.map Char.ofNat) = true
  expansions : ((upperExpansions.flatMap (·.2)).eraseDups.all fun n =>
    recased (Char.ofNat n) == [Char.ofNat n]) = true
  ascii : ∀ n < 128, recased (Char.ofNat n) = [(Char.ofNat n).toUpper] ∧
    recased (Char.ofNat n).toUpper = [(Char.ofNat n).toUpper]

theorem uppersOnce : UppersOnce where
  apart := by decide +kernel
  sources := by decide +kernel
  targets := by decide +kernel
  expanded := by decide +kernel
  expansions := by decide +kernel
  ascii := by decide +kernel

theorem recased_of_isLowered {c : Char} (h : isLowered c = true) : recased c = upperChar c := by
  rw [recased, beq_iff_eq.mp h]
  exact List.append_nil _

theorem CaseRun.lowered_of_isSmall {run : CaseRun} (h : run.isSmall = true) {n : Nat} (hn : run.covers n = true) :
    isLowered (Char.ofNat n) = true := by
  simp only [isSmall, Bool.and_eq_true, Nat.ble_eq] at h
  exact lowered_of_apart h.1.1 h.1.2 h.2 hn

theorem CaseRun.lowerChar_of_isUndone {run : CaseRun} (h : run.isUndone = true) {n : Nat} (hn : run.covers n = true)
    (hchar : (Char.ofNat ((n : Int) + run.shift).toNat).toNat = ((n : Int) + run.shift).toNat) :
    lowerChar (Char.ofNat ((n : Int) + run.shift).toNat) = [Char.ofNat n] := by
  simp only [isUndone, Bool.and_eq_true, Nat.ble_eq, List.any_eq_true, beq_iff_eq] at h
  obtain ⟨⟨hlow, hexpansions⟩, lower, hlower, hincludes, hshift⟩ := h
  have hled : run.led.covers ((n : Int) + run.shift).toNat = true :=
    covers_led hn (Nat.lt_of_lt_of_le (by decide) hlow)
  have hrange := bounds_of_covers hled
  have hback : (((n : Int) + run.shift).toNat + lower.shift).toNat = n := by omega
  generalize ((n : Int) + run.shift).toNat = m at *
  have hsingle := lookup_lowerExpansions_eq_none hexpansions hrange
  have hfind := find?_of_apart uppersOnce.apart hlower (covers_of_includes hincludes hled)
  rw [lowerChar, hchar, if_neg (by omega), mapCase, hchar, hsingle]
  simp only [hfind, hback]

/-- Along a run to upper case, the way by lower case leads to the same. -/
theorem recased_of_run {c : Char} {run : CaseRun} (hrun : run ∈ upperRuns) (hcovers : run.covers c.toNat = true)
    (hupper : upperChar c = [Char.ofNat ((c.toNat : Int) + run.shift).toNat]) :
    recased c = upperChar c ∧ ∀ d ∈ upperChar c, recased d = [d] := by
  have hcode := CaseRun.mem_codes hcovers
  have hsource := List.all_eq_true.mp uppersOnce.sources run hrun
  have htarget := List.all_eq_true.mp uppersOnce.targets run hrun
  rw [Bool.or_eq_true, List.all_eq_true] at hsource htarget
  constructor
  · obtain hsmall | hlisted := hsource
    · have hlowered := CaseRun.lowered_of_isSmall hsmall hcovers
      rw [Char.ofNat_toNat] at hlowered
      exact recased_of_isLowered hlowered
    · have hsame := beq_iff_eq.mp (hlisted _ hcode)
      rw [Char.ofNat_toNat] at hsame
      rw [hsame, hupper]
  · intro d hd
    rw [hupper] at hd
    rw [List.mem_singleton.mp hd]
    obtain hundone | hlisted := htarget
    · rw [Bool.and_eq_true] at hundone
      obtain hchar | hnone := toNat_ofNat ((c.toNat : Int) + run.shift).toNat
      · rw [recased, CaseRun.lowerChar_of_isUndone hundone.2 hcovers hchar, Char.ofNat_toNat, ← hupper]
        exact List.append_nil _
      · -- What is no character is taken as the first one.
        rw [← Char.ofNat_toNat (Char.ofNat _), hnone]
        exact (uppersOnce.ascii 0 (by decide)).1
    · exact beq_iff_eq.mp (hlisted _ hcode)

theorem upperChar_cases (c : Char) :
    upperChar c = [c] ∨ recased c = upperChar c ∧ ∀ d ∈ upperChar c, recased d = [d] := by
  have hupper : upperChar c = if c.toNat < 128 then [c.toUpper] else mapCase upperExpansions upperRuns c := rfl
  by_cases hsmall : c.toNat < 128
  · obtain ⟨hsource, htarget⟩ := uppersOnce.ascii c.toNat hsmall
    rw [Char.ofNat_toNat] at hsource htarget
    rw [if_pos hsmall] at hupper
    refine .inr ⟨by rw [hsource, hupper], fun d hd => ?_⟩
    rw [hupper] at hd
    rw [List.mem_singleton.mp hd, htarget]
  rw [if_neg hsmall, mapCase] at hupper
  split at hupper
  · next targets hlookup =>
    obtain ⟨before, after, hsplit, -⟩ := List.lookup_eq_some_iff.mp hlookup
    have hentry : (c.toNat, targets) ∈ upperExpansions := by simp [hsplit]
    have hsource := List.all_eq_true.mp uppersOnce.expanded _ hentry
    rw [Bool.or_eq_true] at hsource
    refine .inr ⟨?_, fun d hd => ?_⟩
    · obtain hapart | hlisted := hsource
      · have hlowered : isLowered (Char.ofNat c.toNat) = true :=
          CaseRun.lowered_of_isSmall hapart (by simp [CaseRun.covers])
        rw [Char.ofNat_toNat] at hlowered
        exact recased_of_isLowered hlowered
      · have hsame := beq_iff_eq.mp hlisted
        rw [Char.ofNat_toNat] at hsame
        rw [hsame, hupper]
    · rw [hupper] at hd
      obtain ⟨n, hn, rfl⟩ := List.mem_map.mp hd
      have hmem : n ∈ (upperExpansions.flatMap (·.2)).eraseDups :=
        List.mem_eraseDups.mpr (List.mem_flatMap.mpr ⟨_, hentry, hn⟩)
      exact beq_iff_eq.mp (List.all_eq_true.mp uppersOnce.expansions n hmem)
  · split at hupper
    · next run hfind =>
      have hcovers := List.find?_some hfind
      exact .inr (recased_of_run (List.mem_of_find?_eq_some hfind) hcovers hupper)
    · exact .inl hupper

/-! ### Texts -/

theorem flatMap_recased_upperChar (c : Char) : (upperChar c).flatMap recased = recased c := by
  obtain hsame | ⟨hsource, htargets⟩ := upperChar_cases c
  · rw [hsame]
    exact List.append_nil _
  · rw [hsource, List.flatMap_def, List.map_congr_left htargets, ← List.flatMap_def]
    exact List.flatMap_singleton' _

theorem recased_capitalSigma : recased capitalSigma = upperChars ['σ'] ∧ recased capitalSigma = upperChars ['ς'] := by
  decide +kernel

theorem upperChars_append (xs ys : List Char) : upperChars (xs ++ ys) = upperChars xs ++ upperChars ys :=
  List.flatMap_append

theorem upperChars_lowerFrom (afterCased : Bool) (cs : List Char) :
    upperChars (lowerFrom afterCased cs) = cs.flatMap recased := by
  induction cs generalizing afterCased with
  | nil => rfl
  | cons c cs ih =>
    have hhere : upperChars (if c = capitalSigma then [lowerSigma afterCased cs] else lowerChar c) = recased c := by
      split
      · next hsigma =>
        rw [hsigma, lowerSigma]
        split
        · exact recased_capitalSigma.2.symm
        · exact recased_capitalSigma.1.symm
      · rfl
    rw [lowerFrom, upperChars_append, hhere, ih, List.flatMap_cons]

theorem upperChars_lowerChars_append (xs ys : List Char) :
    upperChars (lowerChars (xs ++ ys)) = upperChars (lowerChars xs) ++ upperChars (lowerChars ys) := by
  simp only [lowerChars, upperChars_lowerFrom, List.flatMap_append]

theorem upperChars_lowerChars_upperChars (cs : List Char) :
    upperChars (lowerChars (upperChars cs)) = upperChars (lowerChars cs) := by
  simp only [lowerChars, upperChars_lowerFrom]
  rw [upperChars, List.flatMap_assoc, funext flatMap_recased_upperChar]

/-- Texts that are the same in upper case are so, too, when they were in lower case in between. -/
theorem upperChars_lowerChars_congr {xs ys : List Char} (h : upperChars xs = upperChars ys) :
    upperChars (lowerChars xs) = upperChars (lowerChars ys) := by
  rw [← upperChars_lowerChars_upperChars xs, h, upperChars_lowerChars_upperChars]

end SqlBuilder.Text
