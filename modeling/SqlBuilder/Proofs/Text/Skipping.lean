import SqlBuilder.Proofs.Text.Case
import SqlBuilder.Proofs.Text.Utf8

/-!
UTF-8 with other bytes among it. Main statement: without a replacement, decoding gives the characters whose
encodings stand in the bytes from the left, and leaves out every byte that begins none.
-/

namespace SqlBuilder.Text

/-- What can be read of bytes: a character where its encoding stands, nothing where none begins. -/
inductive Legible : List Nat → List Char → Prop
  | nil : Legible [] []
  | char {c : Char} {bytes : List Nat} {cs : List Char} :
      Legible bytes cs → Legible (encodeChar c ++ bytes) (c :: cs)
  | skip {b : Nat} {bytes : List Nat} {cs : List Char} :
      (∀ c, ¬ encodeChar c <+: b :: bytes) → Legible bytes cs → Legible (b :: bytes) cs

/-! ### Sequences that are encodings -/

/-- A byte that goes on with a character. -/
def IsTail (b : Nat) : Prop :=
  0x80 ≤ b ∧ b ≤ 0xbf

section Encodings

variable {bits s t u : Nat}

theorem exists_encodeChar_one (h : bits < 0x80) : ∃ c, encodeChar c = [bits] := by
  have hcode := toNat_ofNat_of_valid (n := bits) (.inl (by omega))
  refine ⟨Char.ofNat bits, ?_⟩
  simp only [encodeChar, hcode]
  rw [if_pos h]

theorem exists_encodeChar_two (h : 2 ≤ bits) (h' : bits < 0x20) (ht : IsTail t) :
    ∃ c, encodeChar c = [0xc0 + bits, t] := by
  obtain ⟨ht, ht'⟩ := ht
  have hcode := toNat_ofNat_of_valid (n := 64 * bits + (t - 0x80)) (.inl (by omega))
  refine ⟨Char.ofNat (64 * bits + (t - 0x80)), ?_⟩
  simp only [encodeChar, hcode]
  rw [if_neg (by omega), if_pos (by omega)]
  simp only [List.cons.injEq, and_true]
  omega

/-- From the first two bytes of three it can be told that no fewer would do and that there is such a character. -/
theorem exists_encodeChar_three (hbits : bits < 0x10) (h : 0x20 ≤ 64 * bits + (s - 0x80))
    (h' : 64 * bits + (s - 0x80) < 0x360 ∨ 0x380 ≤ 64 * bits + (s - 0x80)) (hs : IsTail s) (ht : IsTail t) :
    ∃ c, encodeChar c = [0xe0 + bits, s, t] := by
  obtain ⟨⟨hs, hs'⟩, ht, ht'⟩ := And.intro hs ht
  have hvalid : (64 * (64 * bits + (s - 0x80)) + (t - 0x80)).isValidChar := by
    unfold Nat.isValidChar
    omega
  have hcode := toNat_ofNat_of_valid hvalid
  refine ⟨Char.ofNat (64 * (64 * bits + (s - 0x80)) + (t - 0x80)), ?_⟩
  simp only [encodeChar, hcode]
  rw [if_neg (by omega), if_neg (by omega), if_pos (by omega)]
  simp only [List.cons.injEq, and_true]
  omega

theorem exists_encodeChar_four (h : 0x10 ≤ 64 * bits + (s - 0x80)) (h' : 64 * bits + (s - 0x80) < 0x110)
    (hs : IsTail s) (ht : IsTail t) (hu : IsTail u) : ∃ c, encodeChar c = [0xf0 + bits, s, t, u] := by
  obtain ⟨⟨hs, hs'⟩, ⟨ht, ht'⟩, hu, hu'⟩ := And.intro hs (And.intro ht hu)
  have hcode := toNat_ofNat_of_valid
    (n := 64 * (64 * (64 * bits + (s - 0x80)) + (t - 0x80)) + (u - 0x80)) (.inr (by omega))
  refine ⟨Char.ofNat (64 * (64 * (64 * bits + (s - 0x80)) + (t - 0x80)) + (u - 0x80)), ?_⟩
  simp only [encodeChar, hcode]
  rw [if_neg (by omega), if_neg (by omega), if_neg (by omega)]
  simp only [List.cons.injEq, and_true]
  omega

end Encodings

/-- What a first byte tells: that no encoding begins with it, that it is one, or how many bytes follow, the next
of them in a range without longer encodings than needed and without codes of no character. -/
inductive FirstByte (b : Nat) : Option (List Char × Utf8State) → Prop
  | refused : FirstByte b none
  | one : b < 0x80 → FirstByte b (some ([Char.ofNat b], .start))
  | two {bits : Nat} : b = 0xc0 + bits → 2 ≤ bits → bits < 0x20 →
      FirstByte b (some ([], .inside 1 0x80 0xbf bits))
  | three {low high bits : Nat} : b = 0xe0 + bits → bits < 0x10 → 0x80 ≤ low → high ≤ 0xbf →
      (∀ s, low ≤ s → s ≤ high → 0x20 ≤ 64 * bits + (s - 0x80) ∧
        (64 * bits + (s - 0x80) < 0x360 ∨ 0x380 ≤ 64 * bits + (s - 0x80))) →
      FirstByte b (some ([], .inside 2 low high bits))
  | four {low high bits : Nat} : b = 0xf0 + bits → 0x80 ≤ low → high ≤ 0xbf →
      (∀ s, low ≤ s → s ≤ high → 0x10 ≤ 64 * bits + (s - 0x80) ∧ 64 * bits + (s - 0x80) < 0x110) →
      FirstByte b (some ([], .inside 3 low high bits))

open Utf8State

theorem firstByte_ofFirst? (b : Nat) : FirstByte b (ofFirst? b) := by
  unfold ofFirst?
  split
  · next h => exact .one h
  split
  · exact .refused
  split
  · exact .two (by omega) (by omega) (by omega)
  split
  · exact .three (by omega) (by omega) (by omega) (by omega) (by omega)
  split
  · exact .three (by omega) (by omega) (by omega) (by omega) (by omega)
  split
  · exact .three (by omega) (by omega) (by omega) (by omega) (by omega)
  split
  · exact .four (by omega) (by omega) (by omega) (by omega)
  split
  · exact .four (by omega) (by omega) (by omega) (by omega)
  split
  · exact .four (by omega) (by omega) (by omega) (by omega)
  · exact .refused

/-! ### Sequences that break off -/

/-- The bytes begin with all that a sequence still lacks, the next byte of it in the given range. -/
def Completes (low high : Nat) : Nat → List Nat → Prop
  | 0, _ => True
  | _ + 1, [] => False
  | lacking + 1, b :: bytes => (low ≤ b ∧ b ≤ high) ∧ Completes 0x80 0xbf lacking bytes

theorem ofFirst?_tail {b : Nat} (h : IsTail b) : ofFirst? b = none := by
  obtain ⟨hlow, hhigh⟩ := h
  rw [ofFirst?, if_neg (by omega), if_pos (by omega)]

theorem decodeFrom_refused {b : Nat} (h : ofFirst? b = none) (rest : List Octet) :
    decodeFrom [] .start (.byte b :: rest) = decodeFrom [] .start rest := by
  have hstep : start.step [] b = ([], .start) := by rw [step, afterFirst, h, Option.getD_none]
  rw [decodeFrom_byte [] hstep, List.nil_append]

/-- A byte that breaks a sequence off is read as the first one of another. -/
theorem decodeFrom_broken {b lacking low high bits : Nat} (h : ¬ (low ≤ b ∧ b ≤ high)) (rest : List Octet) :
    decodeFrom [] (.inside lacking low high bits) (.byte b :: rest) =
      decodeFrom [] .start (.byte b :: rest) := by
  simp only [decodeFrom, step, if_neg h, List.nil_append]

/-- A sequence that is not completed is left out, and so are the bytes of it that were read. -/
theorem decodeFrom_inside (bytes : List Nat) {lacking low high : Nat} (hlow : 0x80 ≤ low) (hhigh : high ≤ 0xbf)
    (bits : Nat) :
    Completes low high (lacking + 1) bytes ∨
      decodeFrom [] (.inside (lacking + 1) low high bits) (bytes.map .byte) =
        decodeFrom [] .start (bytes.map .byte) := by
  induction bytes generalizing lacking low high bits with
  | nil => exact .inr rfl
  | cons b bytes ih =>
    by_cases hb : low ≤ b ∧ b ≤ high
    · cases lacking with
      | zero => exact .inl ⟨hb, trivial⟩
      | succ lacking =>
        have hrest : Completes 0x80 0xbf (lacking + 1) bytes ∨ _ :=
          ih (Nat.le_refl 0x80) (Nat.le_refl 0xbf) (64 * bits + (b - 0x80))
        rcases hrest with hmore | hbroken
        · exact .inl ⟨hb, hmore⟩
        · right
          have htail : IsTail b := ⟨Nat.le_trans hlow hb.1, Nat.le_trans hb.2 hhigh⟩
          rw [List.map_cons, decodeFrom_byte [] (step_inside [] hb), hbroken, List.nil_append,
            decodeFrom_refused (ofFirst?_tail htail)]
    · exact .inr (decodeFrom_broken hb _)

/-- A byte that begins a sequence has the sequence completed after it, or is left out. -/
theorem completes_or_skipped {b lacking low high bits : Nat}
    (h : ofFirst? b = some ([], .inside (lacking + 1) low high bits)) (hlow : 0x80 ≤ low) (hhigh : high ≤ 0xbf)
    (bytes : List Nat) :
    Completes low high (lacking + 1) bytes ∨
      decodeFrom [] .start ((b :: bytes).map .byte) = decodeFrom [] .start (bytes.map .byte) := by
  rw [List.map_cons, decodeFrom_byte [] (step_first [] h), List.nil_append]
  exact decodeFrom_inside bytes hlow hhigh bits

/-! ### Bytes that are left out -/

/-- Bytes begin with the encoding of a character, or the first of them is left out. -/
theorem encoded_or_skipped (b : Nat) (bytes : List Nat) :
    (∃ c, encodeChar c <+: b :: bytes) ∨
      decodeFrom [] .start ((b :: bytes).map .byte) = decodeFrom [] .start (bytes.map .byte) := by
  have hfirst := firstByte_ofFirst? b
  generalize hof : ofFirst? b = first at hfirst
  cases hfirst with
  | refused => exact .inr (decodeFrom_refused hof _)
  | one h =>
    obtain ⟨c, hc⟩ := exists_encodeChar_one h
    exact .inl ⟨c, bytes, by rw [hc]; rfl⟩
  | two hb h h' =>
    refine (completes_or_skipped hof (by omega) (by omega) bytes).imp_left fun hmore => ?_
    match bytes, hmore with
    | t :: bytes, ⟨ht, _⟩ =>
      obtain ⟨c, hc⟩ := exists_encodeChar_two h h' ht
      exact ⟨c, bytes, by rw [hc, hb]; rfl⟩
  | three hb hbits hlow hhigh hrange =>
    refine (completes_or_skipped hof hlow hhigh bytes).imp_left fun hmore => ?_
    match bytes, hmore with
    | s :: t :: bytes, ⟨hs, ht, _⟩ =>
      obtain ⟨hshort, hcode⟩ := hrange s hs.1 hs.2
      have htail : IsTail s := ⟨by omega, by omega⟩
      obtain ⟨c, hc⟩ := exists_encodeChar_three hbits hshort hcode htail ht
      exact ⟨c, bytes, by rw [hc, hb]; rfl⟩
  | four hb hlow hhigh hrange =>
    refine (completes_or_skipped hof hlow hhigh bytes).imp_left fun hmore => ?_
    match bytes, hmore with
    | s :: t :: u :: bytes, ⟨hs, ht, hu, _⟩ =>
      obtain ⟨hshort, hcode⟩ := hrange s hs.1 hs.2
      have htail : IsTail s := ⟨by omega, by omega⟩
      obtain ⟨c, hc⟩ := exists_encodeChar_four hshort hcode htail ht hu
      exact ⟨c, bytes, by rw [hc, hb]; rfl⟩

theorem encodeChar_ne_nil (c : Char) : encodeChar c ≠ [] := by
  simp only [encodeChar]
  split
  · simp
  split
  · simp
  split <;> simp

theorem decodeUtf8_encodeChar_append (c : Char) (bytes : List Nat) :
    decodeUtf8 [] ((encodeChar c ++ bytes).map .byte) = c :: decodeUtf8 [] (bytes.map .byte) := by
  rw [decodeUtf8, List.map_append, decodeFrom_encodeChar, decodeUtf8]

theorem legible_decodeUtf8 (bytes : List Nat) : Legible bytes (decodeUtf8 [] (bytes.map .byte)) := by
  match bytes with
  | [] => exact .nil
  | b :: bytes =>
    by_cases hencoded : ∃ c, encodeChar c <+: b :: bytes
    · obtain ⟨c, rest, hrest⟩ := hencoded
      have hshorter : rest.length < (b :: bytes).length := by
        have hlength := List.length_pos_iff.mpr (encodeChar_ne_nil c)
        rw [← hrest, List.length_append]
        omega
      rw [← hrest, decodeUtf8_encodeChar_append]
      exact .char (legible_decodeUtf8 rest)
    · rw [decodeUtf8, (encoded_or_skipped b bytes).resolve_left hencoded]
      exact .skip (not_exists.mp hencoded) (legible_decodeUtf8 bytes)
termination_by bytes.length
decreasing_by
  · exact hshorter
  · exact Nat.lt_succ_self bytes.length

theorem decodeUtf8_eq_iff {bytes : List Nat} {cs : List Char} :
    decodeUtf8 [] (bytes.map .byte) = cs ↔ Legible bytes cs := by
  refine ⟨fun h => h ▸ legible_decodeUtf8 bytes, fun h => ?_⟩
  induction h with
  | nil => rfl
  | char _ ih => rw [decodeUtf8_encodeChar_append, ih]
  | skip hnone _ ih =>
    rw [decodeUtf8, (encoded_or_skipped _ _).resolve_left (not_exists.mpr hnone)]
    exact ih

end SqlBuilder.Text
