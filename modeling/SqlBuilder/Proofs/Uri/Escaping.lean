import SqlBuilder.Proofs.Text.Utf8
import SqlBuilder.Proofs.Uri.Composition

/-!
Percent-encoded texts read back. Main statement: a text in which everything that is not unreserved is escaped,
byte by byte, is decoded to what it was.
-/

namespace SqlBuilder.Uri

/-! ### Escapes -/

theorem hexValue?_hexDigit : ∀ n < 16, hexValue? (hexDigit n) = some n := by
  decide

theorem hexDigit_plain : ∀ n < 16, isUnreserved (hexDigit n) = true := by
  decide

theorem octets_cons {c : Char} (h : c ≠ '%') (cs : List Char) : octets (c :: cs) = octetOf c :: octets cs := by
  rw [octets]
  intro a b rest hc
  exact absurd hc h

theorem octets_escapeByte {b : Nat} (h : b < 256) (cs : List Char) :
    octets (escapeByte b ++ cs) = .byte b :: octets cs := by
  have hbyte : 16 * (b / 16) + b % 16 = b := by omega
  simp only [escapeByte, List.cons_append, List.nil_append, octets, hexValue?_hexDigit (b / 16) (by omega),
    hexValue?_hexDigit (b % 16) (by omega), hbyte]

theorem octets_escaped {bytes : List Nat} (h : ∀ b ∈ bytes, b < 256) (cs : List Char) :
    octets (bytes.flatMap escapeByte ++ cs) = bytes.map .byte ++ octets cs := by
  induction bytes with
  | nil => rfl
  | cons b bytes ih =>
    rw [List.forall_mem_cons] at h
    rw [List.flatMap_cons, List.append_assoc, octets_escapeByte h.1, ih h.2, List.map_cons, List.cons_append]

theorem encodeChar_lt (c : Char) : ∀ b ∈ Text.encodeChar c, b < 256 := by
  have hchar : c.toNat < 0x110000 := by
    have hvalid : c.toNat < 0xd800 ∨ 0xdfff < c.toNat ∧ c.toNat < 0x110000 := c.valid
    omega
  unfold Text.encodeChar
  simp only []
  split
  · simpa using by omega
  · split
    · simpa using by omega
    · split <;> simpa using by omega

/-- An unreserved character is a byte, and no mark of the encoding. -/
theorem unreserved_ascii {c : Char} (h : isUnreserved c = true) : c.toNat < 0x80 ∧ c ≠ '%' ∧ c ≠ '+' := by
  have hbyte : c.toNat < 0x80 := by
    simp only [isUnreserved, Bool.or_eq_true, beq_iff_eq] at h
    obtain (((halphanum | rfl) | rfl) | rfl) | rfl := h
    · exact isAlphanum_ascii halphanum
    all_goals decide
  refine ⟨hbyte, ?_, ?_⟩ <;> rintro rfl <;> cases h

theorem escapeByte_plain {b : Nat} (h : b < 256) : ∀ c ∈ escapeByte b, isUnreserved c = true ∨ c = '%' := by
  rw [escapeByte, List.forall_mem_cons, List.forall_mem_cons, List.forall_mem_singleton]
  exact ⟨.inr rfl, .inl (hexDigit_plain _ (by omega)), .inl (hexDigit_plain _ (by omega))⟩

/-! ### Texts with escapes -/

/-- Everything that is not unreserved is escaped. -/
def escapeChar (c : Char) : List Char :=
  if isUnreserved c then [c] else (Text.encodeChar c).flatMap escapeByte

/-- A percent-encoded text. -/
def encode (cs : List Char) : List Char :=
  cs.flatMap escapeChar

theorem octets_escapeChar (c : Char) (cs : List Char) :
    octets (escapeChar c ++ cs) = (Text.encodeChar c).map .byte ++ octets cs := by
  unfold escapeChar
  split
  · rename_i hunreserved
    obtain ⟨hbyte, hpercent, -⟩ := unreserved_ascii hunreserved
    rw [List.singleton_append, octets_cons hpercent, octetOf, if_pos hbyte, Text.encodeChar, if_pos hbyte]
    rfl
  · exact octets_escaped (encodeChar_lt c) cs

theorem isEncoded_escapeChar (c : Char) : IsEncoded (escapeChar c) := by
  intro d hd
  unfold escapeChar at hd
  split at hd
  · rename_i hunreserved
    rw [List.mem_singleton.mp hd]
    exact .inl hunreserved
  · obtain ⟨b, hb, hd⟩ := List.mem_flatMap.mp hd
    exact escapeByte_plain (encodeChar_lt c b hb) d hd

theorem escapeChar_ne_nil (c : Char) : escapeChar c ≠ [] := by
  have hbytes : Text.encodeChar c ≠ [] := by
    unfold Text.encodeChar
    simp only []
    repeat' split
    all_goals exact List.cons_ne_nil _ _
  obtain ⟨b, bytes, hcons⟩ := List.exists_cons_of_ne_nil hbytes
  unfold escapeChar
  split
  · exact List.cons_ne_nil _ _
  · rw [hcons]
    exact List.cons_ne_nil _ _

/-- A text is decoded to what it was before it was encoded. -/
theorem decode_encode (cs : List Char) : decode (encode cs) = cs := by
  rw [decode, Text.decodeUtf8]
  induction cs with
  | nil => rfl
  | cons c cs ih =>
    have hcons : encode (c :: cs) = escapeChar c ++ encode cs := rfl
    rw [hcons, octets_escapeChar, Text.decodeFrom_encodeChar, ih]

theorem isEncoded_encode (cs : List Char) : IsEncoded (encode cs) := by
  intro d hd
  obtain ⟨c, -, hd⟩ := List.mem_flatMap.mp hd
  exact isEncoded_escapeChar c d hd

theorem encode_ne_nil {cs : List Char} (h : cs ≠ []) : encode cs ≠ [] := by
  obtain ⟨c, cs, rfl⟩ := List.exists_cons_of_ne_nil h
  exact List.append_ne_nil_of_left_ne_nil (escapeChar_ne_nil c) _

end SqlBuilder.Uri
