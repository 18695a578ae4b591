import SqlBuilder.Text.Utf8

/-!
UTF-8 read back. Main statement: the bytes of a character are decoded to that character, whatever follows
them.
-/

namespace SqlBuilder.Text

variable (replacement : List Char)

theorem decodeFrom_byte {b : Nat} {state next : Utf8State} {here : List Char}
    (h : state.step replacement b = (here, next)) (rest : List Octet) :
    decodeFrom replacement state (.byte b :: rest) = here ++ decodeFrom replacement next rest := by
  rw [decodeFrom, h]

namespace Utf8State

variable {b lacking low high bits : Nat}

theorem step_first {here : List Char} {next : Utf8State} (h : ofFirst? b = some (here, next)) :
    start.step replacement b = (here, next) := by
  rw [step, afterFirst, h, Option.getD_some]

theorem step_inside (h : low ≤ b ∧ b ≤ high) :
    (inside (lacking + 2) low high bits).step replacement b =
      ([], .inside (lacking + 1) 0x80 0xbf (64 * bits + (b - 0x80))) := by
  simp [step, h]

/-- The last byte of a sequence. -/
theorem step_last (h : low ≤ b ∧ b ≤ high) :
    (inside 1 low high bits).step replacement b = ([Char.ofNat (64 * bits + (b - 0x80))], .start) := by
  simp [step, h]

end Utf8State

open Utf8State

theorem ofFirst?_two {n : Nat} (h : 0x80 ≤ n) (h' : n < 0x800) :
    ofFirst? (0xc0 + n / 64) = some ([], .inside 1 0x80 0xbf (n / 64)) := by
  unfold ofFirst?
  rw [if_neg (by omega), if_neg (by omega), if_pos (by omega)]
  simp

/-- The second of three bytes is in the range that the first one leaves. -/
theorem ofFirst?_three {n : Nat} (h : 0x800 ≤ n) (h' : n < 0x10000) (hchar : n < 0xd800 ∨ 0xdfff < n) :
    ∃ low high, ofFirst? (0xe0 + n / 4096) = some ([], .inside 2 low high (n / 4096)) ∧
      low ≤ 0x80 + n / 64 % 64 ∧ 0x80 + n / 64 % 64 ≤ high := by
  unfold ofFirst?
  rw [if_neg (by omega), if_neg (by omega), if_neg (by omega)]
  split
  · exact ⟨0xa0, 0xbf, by simp; omega, by omega, by omega⟩
  · split
    · exact ⟨0x80, 0x9f, by simp, by omega, by omega⟩
    · rw [if_pos (by omega)]
      exact ⟨0x80, 0xbf, by simp, by omega, by omega⟩

theorem ofFirst?_four {n : Nat} (h : 0x10000 ≤ n) (h' : n < 0x110000) :
    ∃ low high, ofFirst? (0xf0 + n / 262144) = some ([], .inside 3 low high (n / 262144)) ∧
      low ≤ 0x80 + n / 4096 % 64 ∧ 0x80 + n / 4096 % 64 ≤ high := by
  unfold ofFirst?
  rw [if_neg (by omega), if_neg (by omega), if_neg (by omega), if_neg (by omega), if_neg (by omega),
    if_neg (by omega)]
  split
  · exact ⟨0x90, 0xbf, by simp; omega, by omega, by omega⟩
  · split
    · exact ⟨0x80, 0xbf, by simp, by omega, by omega⟩
    · rw [if_pos (by omega)]
      exact ⟨0x80, 0x8f, by simp, by omega, by omega⟩

/-- A character is read from its bytes, whatever follows them. -/
theorem decodeFrom_encodeChar (c : Char) (rest : List Octet) :
    decodeFrom replacement .start ((encodeChar c).map .byte ++ rest) =
      c :: decodeFrom replacement .start rest := by
  have hchar : c.toNat < 0xd800 ∨ 0xdfff < c.toNat ∧ c.toNat < 0x110000 := c.valid
  have hc : Char.ofNat c.toNat = c := Char.ofNat_toNat c
  unfold encodeChar
  simp only []
  split
  · rename_i hone
    have hfirst : ofFirst? c.toNat = some ([c], .start) := by rw [ofFirst?, if_pos hone, hc]
    exact decodeFrom_byte replacement (step_first replacement hfirst) rest
  · rename_i hone
    split
    · rename_i htwo
      have hfirst := ofFirst?_two (n := c.toNat) (by omega) htwo
      have hbits : 64 * (c.toNat / 64) + (0x80 + c.toNat % 64 - 0x80) = c.toNat := by omega
      simp only [List.map_cons, List.map_nil, List.cons_append, List.nil_append]
      rw [decodeFrom_byte replacement (step_first replacement hfirst),
        decodeFrom_byte replacement (step_last replacement (by omega)), hbits, hc]
      rfl
    · rename_i htwo
      split
      · rename_i hthree
        obtain ⟨low, high, hfirst, hsecond⟩ := ofFirst?_three (n := c.toNat) (by omega) hthree (by omega)
        have hbits : 64 * (64 * (c.toNat / 4096) + (0x80 + c.toNat / 64 % 64 - 0x80)) +
            (0x80 + c.toNat % 64 - 0x80) = c.toNat := by omega
        simp only [List.map_cons, List.map_nil, List.cons_append, List.nil_append]
        rw [decodeFrom_byte replacement (step_first replacement hfirst),
          decodeFrom_byte replacement (step_inside replacement hsecond),
          decodeFrom_byte replacement (step_last replacement (by omega)), hbits, hc]
        rfl
      · obtain ⟨low, high, hfirst, hsecond⟩ := ofFirst?_four (n := c.toNat) (by omega) (by omega)
        have hbits : 64 * (64 * (64 * (c.toNat / 262144) + (0x80 + c.toNat / 4096 % 64 - 0x80)) +
            (0x80 + c.toNat / 64 % 64 - 0x80)) + (0x80 + c.toNat % 64 - 0x80) = c.toNat := by omega
        simp only [List.map_cons, List.map_nil, List.cons_append, List.nil_append]
        rw [decodeFrom_byte replacement (step_first replacement hfirst),
          decodeFrom_byte replacement (step_inside replacement hsecond),
          decodeFrom_byte replacement (step_inside replacement (by omega)),
          decodeFrom_byte replacement (step_last replacement (by omega)), hbits, hc]
        rfl

end SqlBuilder.Text
