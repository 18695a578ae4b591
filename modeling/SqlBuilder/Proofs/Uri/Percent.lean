import SqlBuilder.Uri.Percent

/-!
Percent-encoded text decoded. Main statements: where there is something to decode, something comes of it, and
nothing that is longer.
-/

namespace SqlBuilder

namespace Text

variable {replacement : List Char}

theorem afterFirst_spoke (hreplacement : replacement ≠ []) (b : Nat) :
    (Utf8State.afterFirst replacement b).1 ≠ [] ∨ (Utf8State.afterFirst replacement b).2 ≠ .start := by
  unfold Utf8State.afterFirst Utf8State.ofFirst?
  repeat' split
  all_goals simp [hreplacement]

/-- After a byte there is a character to show, or one is under way. -/
theorem step_spoke (hreplacement : replacement ≠ []) (b : Nat) (state : Utf8State) :
    (state.step replacement b).1 ≠ [] ∨ (state.step replacement b).2 ≠ .start := by
  cases state with
  | start => exact afterFirst_spoke hreplacement b
  | inside lacking low high bits =>
    by_cases hbyte : low ≤ b ∧ b ≤ high
    · simp only [Utf8State.step, if_pos hbyte]
      split <;> simp
    · left
      simp [Utf8State.step, if_neg hbyte, hreplacement]

theorem decodeFrom_ne_nil (hreplacement : replacement ≠ []) {state : Utf8State} {octets : List Octet}
    (h : octets ≠ [] ∨ state ≠ .start) : decodeFrom replacement state octets ≠ [] := by
  induction octets generalizing state with
  | nil =>
    cases state with
    | start => simp at h
    | inside lacking low high bits => exact hreplacement
  | cons octet octets ih =>
    cases octet with
    | whole c => simp [decodeFrom]
    | byte b =>
      simp only [decodeFrom, ne_eq, List.append_eq_nil_iff, not_and]
      intro hhere
      exact ih (.inr ((step_spoke hreplacement b state).resolve_left (not_not_intro hhere)))

/-! ### Nothing is drawn out -/

/-- The characters that are still owed for the bytes read so far: one, if a sequence is under way. -/
def Utf8State.owed : Utf8State → Nat
  | .start => 0
  | .inside .. => 1

theorem length_finish (hreplacement : replacement.length ≤ 1) (state : Utf8State) :
    (state.finish replacement).length ≤ state.owed := by
  cases state with
  | start => exact Nat.le_refl 0
  | inside lacking low high bits => exact hreplacement

theorem length_afterFirst (hreplacement : replacement.length ≤ 1) (b : Nat) :
    (Utf8State.afterFirst replacement b).1.length + (Utf8State.afterFirst replacement b).2.owed ≤ 1 := by
  unfold Utf8State.afterFirst Utf8State.ofFirst?
  repeat' split
  all_goals simp [Utf8State.owed, hreplacement]

/-- A byte adds at most one character to what is shown and owed. -/
theorem length_step (hreplacement : replacement.length ≤ 1) (b : Nat) (state : Utf8State) :
    (state.step replacement b).1.length + (state.step replacement b).2.owed ≤ state.owed + 1 := by
  cases state with
  | start => exact length_afterFirst hreplacement b
  | inside lacking low high bits =>
    by_cases hbyte : low ≤ b ∧ b ≤ high
    · simp only [Utf8State.step, if_pos hbyte]
      split <;> simp [Utf8State.owed]
    · have hfirst := length_afterFirst hreplacement b
      simp only [Utf8State.step, if_neg hbyte, List.length_append, Utf8State.owed] at hfirst ⊢
      omega

theorem length_decodeFrom (hreplacement : replacement.length ≤ 1) (state : Utf8State) (octets : List Octet) :
    (decodeFrom replacement state octets).length ≤ state.owed + octets.length := by
  induction octets generalizing state with
  | nil => exact length_finish hreplacement state
  | cons octet octets ih =>
    cases octet with
    | whole c =>
      have hfinish := length_finish hreplacement state
      have hrest : (decodeFrom replacement .start octets).length ≤ 0 + octets.length := ih .start
      simp only [decodeFrom, List.length_append, List.length_cons]
      omega
    | byte b =>
      have hstep := length_step hreplacement b state
      have hrest := ih (state.step replacement b).2
      simp only [decodeFrom, List.length_append, List.length_cons]
      omega

end Text

namespace Uri

theorem octets_ne_nil {cs : List Char} (h : cs ≠ []) : octets cs ≠ [] := by
  fun_cases octets cs with
  | case1 => simp
  | case2 => simp
  | case3 => simp
  | case4 => exact absurd rfl h

theorem decode_ne_nil {cs : List Char} (h : cs ≠ []) : decode cs ≠ [] :=
  Text.decodeFrom_ne_nil (List.cons_ne_nil _ _) (.inl (octets_ne_nil h))

theorem length_octets (cs : List Char) : (octets cs).length ≤ cs.length := by
  fun_induction octets cs with
  | case1 rest a b high low hhigh hlow ih => simp only [List.length_cons]; omega
  | case2 rest a b h ih => simpa using ih
  | case3 c rest h ih => simpa using ih
  | case4 => exact Nat.le_refl 0

theorem length_decode_octets (cs : List Char) : (decode cs).length ≤ (octets cs).length := by
  have hreplacement : [Text.replacementChar].length ≤ 1 := Nat.le_refl 1
  have hdecode := Text.length_decodeFrom hreplacement .start (octets cs)
  rwa [Text.Utf8State.owed, Nat.zero_add] at hdecode

/-- Decoding makes no text longer. -/
theorem length_decode (cs : List Char) : (decode cs).length ≤ cs.length :=
  Nat.le_trans (length_decode_octets cs) (length_octets cs)

/-- A percent sign with two hexadecimal digits stands in the text. -/
def hasEscape : List Char → Bool
  | '%' :: a :: b :: rest =>
    ((hexValue? a).isSome && (hexValue? b).isSome) || hasEscape (a :: b :: rest)
  | _ :: rest => hasEscape rest
  | [] => false

theorem octets_of_not_hasEscape {cs : List Char} (h : hasEscape cs = false) : octets cs = cs.map octetOf := by
  fun_induction octets cs with
  | case1 a b rest high low hhigh hlow ih => simp [hasEscape, hhigh, hlow] at h
  | case2 a b rest hvalues ih =>
    rw [hasEscape, Bool.or_eq_false_iff] at h
    rw [ih h.2]
    rfl
  | case3 c rest hother ih =>
    rw [hasEscape] at h
    · rw [ih h, List.map_cons]
    · exact hother
  | case4 => rfl

theorem length_octets_of_hasEscape {cs : List Char} (h : hasEscape cs = true) :
    (octets cs).length < cs.length := by
  fun_induction octets cs with
  | case1 a b rest high low hhigh hlow ih =>
    have hrest := length_octets rest
    simp only [List.length_cons]
    omega
  | case2 a b rest hvalues ih =>
    have hlater : hasEscape (a :: b :: rest) = true := by
      rw [hasEscape, Bool.or_eq_true, Bool.and_eq_true] at h
      obtain ⟨hhigh, hlow⟩ | hlater := h
      · obtain ⟨high, hhigh⟩ := Option.isSome_iff_exists.mp hhigh
        obtain ⟨low, hlow⟩ := Option.isSome_iff_exists.mp hlow
        exact (hvalues high low hhigh hlow).elim
      · exact hlater
    exact Nat.succ_lt_succ (ih hlater)
  | case3 c rest hother ih =>
    rw [hasEscape] at h
    · exact Nat.succ_lt_succ (ih h)
    · exact hother
  | case4 => cases h

theorem decodeFrom_octetOf (c : Char) (rest : List Text.Octet) :
    Text.decodeFrom [Text.replacementChar] .start (octetOf c :: rest) =
      c :: Text.decodeFrom [Text.replacementChar] .start rest := by
  unfold octetOf
  split
  · rename_i hbyte
    have hfirst : Text.Utf8State.ofFirst? c.toNat = some ([c], .start) := by
      rw [Text.Utf8State.ofFirst?, if_pos hbyte, Char.ofNat_toNat]
    simp [Text.decodeFrom, Text.Utf8State.step, Text.Utf8State.afterFirst, hfirst]
  · rfl

/-- A text stays as it is exactly if there is no escape in it. -/
theorem decode_eq_self_iff {cs : List Char} : decode cs = cs ↔ hasEscape cs = false := by
  constructor
  · intro h
    cases hescape : hasEscape cs with
    | false => rfl
    | true =>
      have hshort := Nat.lt_of_le_of_lt (length_decode_octets cs) (length_octets_of_hasEscape hescape)
      rw [h] at hshort
      exact absurd hshort (Nat.lt_irrefl _)
  · intro h
    rw [decode, octets_of_not_hasEscape h, Text.decodeUtf8]
    clear h
    induction cs with
    | nil => rfl
    | cons c cs ih => rw [List.map_cons, decodeFrom_octetOf, ih]

end Uri

end SqlBuilder
