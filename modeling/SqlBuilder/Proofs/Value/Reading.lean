import SqlBuilder.Value.Order
import SqlBuilder.Value.Reading

/-!
Values in the place of names. Main statement: of equal values one is kept, and what equals a text is that
text.
-/

namespace SqlBuilder.Value

theorem toName_eq_ok {value : Value} {name : String} : value.toName = .ok name ↔ value = .text name := by
  cases value <;> simp [toName]

@[simp] theorem text?_text (s : String) : (Value.text s).text? = some s := rfl

theorem filterMap_text? (names : List String) :
    (names.map Value.text).filterMap Value.text? = names := by
  rw [List.filterMap_map]
  exact List.filterMap_some

theorem equals_text_self (s : String) : (Value.text s).equals (.text s) = true := by
  simp [equals]

theorem eq_of_text_equals {s : String} {x : Value} (h : (Value.text s).equals x = true) : x = .text s := by
  cases x with
  | text t =>
    have hst : s = t := by simpa [equals] using h
    rw [hst]
  | _ => simp [equals, equalsNumber, integral?] at h

theorem equals_text_iff {s : String} {x : Value} : x.equals (.text s) = true ↔ x = .text s := by
  constructor
  · intro h
    cases x with
    | text t =>
      have hts : t = s := by simpa [equals] using h
      rw [hts]
    | _ => simp [equals, equalsNumber, integral?] at h
  · intro h
    rw [h]
    exact equals_text_self s

/-- Of equal values one is kept. -/
theorem exists_mem_distinct {values : List Value} {x : Value} (h : x ∈ values) :
    ∃ y ∈ distinct values, y = x ∨ y.equals x = true := by
  have hkept : ∀ (values seen : List Value) (x : Value), (∃ y ∈ seen, y = x ∨ y.equals x = true) ∨ x ∈ values →
      ∃ y ∈ values.foldl (fun seen x => if seen.any (·.equals x) then seen else seen ++ [x]) seen,
        y = x ∨ y.equals x = true := by
    intro values
    induction values with
    | nil =>
      intro seen x h
      simpa using h
    | cons v values ih =>
      intro seen x h
      rw [List.foldl_cons]
      apply ih
      rcases h with ⟨y, hy, heq⟩ | h
      · left
        split
        · exact ⟨y, hy, heq⟩
        · exact ⟨y, List.mem_append_left _ hy, heq⟩
      · rcases List.mem_cons.mp h with rfl | h
        · left
          split
          · next hany =>
            obtain ⟨y, hy, heq⟩ := List.any_eq_true.mp hany
            exact ⟨y, hy, .inr heq⟩
          · exact ⟨x, by simp, .inl rfl⟩
        · exact .inr h
  exact hkept values [] x (.inr h)

theorem mem_of_mem_distinct {values : List Value} {x : Value} (h : x ∈ distinct values) :
    x ∈ values := by
  have hkept : ∀ values seen : List Value,
      x ∈ values.foldl (fun seen x => if seen.any (·.equals x) then seen else seen ++ [x]) seen →
        x ∈ seen ∨ x ∈ values := by
    intro values
    induction values with
    | nil => exact fun seen h => .inl h
    | cons v values ih =>
      intro seen h
      rcases ih _ h with h | h
      · simp only at h
        split at h
        · exact .inl h
        · rcases List.mem_append.mp h with h | h
          · exact .inl h
          · exact .inr (List.mem_cons.mpr (.inl (List.mem_singleton.mp h)))
      · exact .inr (List.mem_cons_of_mem v h)
  simpa using hkept values [] h

/-- Texts have an order. -/
theorem areOrdered_of_texts {values : List Value} (h : ∀ x ∈ values, ∃ s, x = .text s) :
    areOrdered values = true := by
  induction values with
  | nil => rfl
  | cons x values ih =>
    obtain ⟨⟨s, rfl⟩, hvalues⟩ := List.forall_mem_cons.mp h
    rw [areOrdered, ih hvalues, Bool.and_true, List.all_eq_true]
    intro y hy
    obtain ⟨t, rfl⟩ := hvalues y hy
    rfl

end SqlBuilder.Value
