import SqlBuilder.Value.Written

/-!
The texts of numbers. Main statement: integers and floating point numbers are written with digits, signs, points and
a few letters.
-/

namespace SqlBuilder.Binary64

/-- What numbers are written with, infinities and what is no number included. -/
def numerals : List Char := "0123456789+-.aefin".toList

def isNumeral (c : Char) : Bool :=
  numerals.contains c

theorem all_of_isNumeral {p : Char → Bool} (hp : numerals.all p = true) {cs : List Char}
    (h : cs.all isNumeral = true) : cs.all p = true := by
  rw [List.all_eq_true] at hp h ⊢
  exact fun c hc => hp c (List.contains_iff_mem.mp (h c hc))

theorem isNumeral_of_isDigit {c : Char} (h : c.isDigit = true) : isNumeral c = true := by
  have hall : ∀ n < 58, 48 ≤ n → isNumeral (Char.ofNat n) = true := by decide
  rw [Char.isDigit, Bool.and_eq_true, decide_eq_true_iff, decide_eq_true_iff] at h
  rw [← Char.ofNat_toNat c]
  exact hall c.toNat (Nat.lt_succ_of_le h.2) h.1

theorem isNumeral_natText (n : Nat) : (natText n).all isNumeral = true := by
  rw [List.all_eq_true]
  exact fun c hc => isNumeral_of_isDigit (Nat.isDigit_of_mem_toDigits (by decide) (by decide) hc)

theorem natText_ne_nil (n : Nat) : natText n ≠ [] :=
  Nat.toDigits_ne_nil

theorem isNumeral_of_sublist {xs ys : List Char} (h : xs.Sublist ys) (hys : ys.all isNumeral = true) :
    xs.all isNumeral = true :=
  List.all_eq_true.mpr fun c hc => List.all_eq_true.mp hys c (h.subset hc)

theorem isNumeral_zeros (n : Nat) : (List.replicate n '0').all isNumeral = true := by
  rw [List.all_replicate]
  split <;> decide

theorem isNumeral_exponentText (power : Int) : (exponentText literalNotation power).all isNumeral = true := by
  have hmark : literalNotation.exponentMark.toList.all isNumeral = true := by decide
  rw [exponentText, padZeros, List.all_append, List.all_append, List.all_append, hmark, isNumeral_zeros,
    isNumeral_natText]
  split <;> decide

theorem isNumeral_writeDigits {digits : List Char} (h : digits.all isNumeral = true) (power : Int) :
    (writeDigits literalNotation digits power).all isNumeral = true := by
  have htake : ∀ n, (digits.take n).all isNumeral = true :=
    fun n => isNumeral_of_sublist (List.take_sublist n digits) h
  have hdrop : ∀ n, (digits.drop n).all isNumeral = true :=
    fun n => isNumeral_of_sublist (List.drop_sublist n digits) h
  have hpoint : isNumeral '.' = true := by decide
  have hzero : isNumeral '0' = true := by decide
  rw [writeDigits]
  split
  · split
    · have hlead : "0.".toList.all isNumeral = true := by decide
      rw [List.all_append, List.all_append, hlead, isNumeral_zeros, h]
      rfl
    · simp only [List.all_append, htake, isNumeral_zeros, List.all_cons, List.all_nil, hpoint, Bool.and_true,
        Bool.true_and]
      split
      · simp [hzero]
      · exact hdrop _
  · simp only [List.all_append, htake, isNumeral_exponentText, Bool.and_true, Bool.true_and]
    split
    · rfl
    · rw [List.all_cons, hpoint, hdrop]
      rfl

/-- There is a point or an exponent, even without digits. -/
theorem writeDigits_ne_nil (digits : List Char) (power : Int) : writeDigits literalNotation digits power ≠ [] := by
  have hexponent : exponentText literalNotation power ≠ [] := by simp [exponentText]
  rw [writeDigits]
  split
  · split <;> simp
  · simp [hexponent]

theorem isNumeral_text (x : Binary64) : x.text.toList.all isNumeral = true := by
  have hsign : ∀ negative : Bool, (if negative then ['-'] else []).all isNumeral = true := by decide
  match x with
  | .nan => decide
  | .infinite negative =>
    have hinfinity : literalNotation.infinity.toList.all isNumeral = true := by decide
    rw [text, write, String.toList_append, String.toList_ofList, List.all_append, hsign, hinfinity]
    rfl
  | .finite negative m e =>
    rw [text, write]
    split
    · rw [String.toList_ofList, List.all_append, hsign, isNumeral_writeDigits (by decide)]
      rfl
    · have hdigits : (dropTrailingZeros (natText (shortestDecimal m e).1)).all isNumeral = true := by
        rw [dropTrailingZeros, List.all_reverse]
        exact isNumeral_of_sublist (List.dropWhile_sublist _) (by rw [List.all_reverse, isNumeral_natText])
      rw [String.toList_ofList, List.all_append, hsign, isNumeral_writeDigits hdigits]
      rfl

theorem text_ne_nil (x : Binary64) : x.text.toList ≠ [] := by
  match x with
  | .nan => decide
  | .infinite negative =>
    have hinfinity : literalNotation.infinity.toList ≠ [] := by decide
    rw [text, write, String.toList_append]
    exact List.append_ne_nil_of_right_ne_nil _ hinfinity
  | .finite negative m e =>
    rw [text, write]
    split <;>
    · rw [String.toList_ofList]
      exact List.append_ne_nil_of_right_ne_nil _ (writeDigits_ne_nil _ _)

end SqlBuilder.Binary64

namespace SqlBuilder.Value

theorem isNumeral_intText (n : Int) : (intText n).toList.all Binary64.isNumeral = true := by
  rw [intText, String.toList_ofList, List.all_append, Binary64.isNumeral_natText]
  split <;> rfl

theorem intText_ne_nil (n : Int) : (intText n).toList ≠ [] := by
  rw [intText, String.toList_ofList]
  exact List.append_ne_nil_of_right_ne_nil _ (Binary64.natText_ne_nil _)

end SqlBuilder.Value
