import SqlBuilder.Redaction

/-!
What is left to see of masked values. Main statement: sensitive text stands in the masked bindings of a log
entry exactly if it stands in a mapping among the bindings, however deep in lists and tuples that mapping is.
-/

namespace SqlBuilder

/-- A value stands in another one: as itself, or in a member of it, a key or what is under a key. -/
inductive Value.StandsIn (x : Value) : Value → Prop where
  | self : StandsIn x x
  | list {xs : List Value} {y : Value} : y ∈ xs → StandsIn x y → StandsIn x (.list xs)
  | tuple {xs : List Value} {y : Value} : y ∈ xs → StandsIn x y → StandsIn x (.tuple xs)
  | key {entries : List (Value × Value)} {entry : Value × Value} : entry ∈ entries →
      StandsIn x entry.1 → StandsIn x (.dict entries)
  | entry {entries : List (Value × Value)} {entry : Value × Value} : entry ∈ entries →
      StandsIn x entry.2 → StandsIn x (.dict entries)

/-- A value is reached from another one through lists and tuples alone. -/
inductive Value.ListedIn (x : Value) : Value → Prop where
  | self : ListedIn x x
  | list {xs : List Value} {y : Value} : y ∈ xs → ListedIn x y → ListedIn x (.list xs)
  | tuple {xs : List Value} {y : Value} : y ∈ xs → ListedIn x y → ListedIn x (.tuple xs)

namespace Redaction

open Value (StandsIn ListedIn)

/-- Texts and byte strings that are not to be seen. -/
def isSensitive : Value → Bool
  | .text text => isSensitiveValue text
  | .bytes bytes => isSensitiveBytes bytes
  | _ => false

/-- Something sensitive stands in the value. -/
def Exposes (y : Value) : Prop :=
  ∃ x, StandsIn x y ∧ isSensitive x = true

theorem values_eq_map (xs : List Value) : values xs = xs.map value := by
  induction xs with
  | nil => rfl
  | cons x xs ih => rw [values, ih, List.map_cons]

theorem value_list (xs : List Value) : value (.list xs) = .list (xs.map value) := by
  rw [value, values_eq_map]

theorem value_tuple (xs : List Value) : value (.tuple xs) = .tuple (xs.map value) := by
  rw [value, values_eq_map]

theorem isSensitiveValue_mask : isSensitiveValue mask = false := by
  decide

/-- Nothing is sensitive after it was masked itself. -/
theorem isSensitive_value (y : Value) : isSensitive (value y) = false := by
  cases y with
  | text text =>
    rw [value]
    split
    · exact isSensitiveValue_mask
    · next h => simpa [isSensitive] using h
  | bytes bytes =>
    rw [value]
    split
    · exact isSensitiveValue_mask
    · next h => simpa [isSensitive] using h
  | _ => rfl

/-! ### Masked collections -/

theorem value_eq_list {y : Value} {zs : List Value} (h : value y = .list zs) :
    ∃ ys, y = .list ys ∧ zs = ys.map value := by
  cases y with
  | list ys =>
    rw [value_list] at h
    exact ⟨ys, rfl, (Value.list.inj h).symm⟩
  | text text => rw [value] at h; split at h <;> cases h
  | bytes bytes => rw [value] at h; split at h <;> cases h
  | _ => cases h

theorem value_eq_tuple {y : Value} {zs : List Value} (h : value y = .tuple zs) :
    ∃ ys, y = .tuple ys ∧ zs = ys.map value := by
  cases y with
  | tuple ys =>
    rw [value_tuple] at h
    exact ⟨ys, rfl, (Value.tuple.inj h).symm⟩
  | text text => rw [value] at h; split at h <;> cases h
  | bytes bytes => rw [value] at h; split at h <;> cases h
  | _ => cases h

/-- Mappings are left as they are. -/
theorem value_eq_dict {y : Value} {entries : List (Value × Value)} (h : value y = .dict entries) :
    y = .dict entries := by
  cases y with
  | dict entries' => exact h
  | text text => rw [value] at h; split at h <;> cases h
  | bytes bytes => rw [value] at h; split at h <;> cases h
  | _ => cases h

/-! ### What can still be seen -/

/-- What is sensitive in a masked value stands in a mapping. The induction is on how it stands there, with the
value before it was masked going along. -/
theorem exists_dict_of_standsIn {x z : Value} (hx : isSensitive x = true) (h : StandsIn x z) :
    ∀ y, value y = z → ∃ entries, ListedIn (.dict entries) y ∧ StandsIn x (.dict entries) := by
  induction h with
  | self =>
    rintro y rfl
    rw [isSensitive_value] at hx
    cases hx
  | list hmem _ ih =>
    intro y hy
    obtain ⟨ys, rfl, rfl⟩ := value_eq_list hy
    obtain ⟨member, hmember, rfl⟩ := List.mem_map.mp hmem
    obtain ⟨entries, hlisted, hstands⟩ := ih member rfl
    exact ⟨entries, .list hmember hlisted, hstands⟩
  | tuple hmem _ ih =>
    intro y hy
    obtain ⟨ys, rfl, rfl⟩ := value_eq_tuple hy
    obtain ⟨member, hmember, rfl⟩ := List.mem_map.mp hmem
    obtain ⟨entries, hlisted, hstands⟩ := ih member rfl
    exact ⟨entries, .tuple hmember hlisted, hstands⟩
  | key hmem hstands _ =>
    intro y hy
    rw [value_eq_dict hy]
    exact ⟨_, .self, .key hmem hstands⟩
  | entry hmem hstands _ =>
    intro y hy
    rw [value_eq_dict hy]
    exact ⟨_, .self, .entry hmem hstands⟩

/-- A mapping is reached after masking as it was before. -/
theorem standsIn_value {x y : Value} {entries : List (Value × Value)} (h : ListedIn (.dict entries) y)
    (hx : StandsIn x (.dict entries)) : StandsIn x (value y) := by
  induction h with
  | self => exact hx
  | list hmem _ ih =>
    rw [value_list]
    exact .list (List.mem_map_of_mem hmem) ih
  | tuple hmem _ ih =>
    rw [value_tuple]
    exact .tuple (List.mem_map_of_mem hmem) ih

theorem exposes_value_iff (y : Value) :
    Exposes (value y) ↔ ∃ entries, ListedIn (.dict entries) y ∧ Exposes (.dict entries) := by
  constructor
  · rintro ⟨x, hstands, hx⟩
    obtain ⟨entries, hlisted, hinside⟩ := exists_dict_of_standsIn hx hstands y rfl
    exact ⟨entries, hlisted, x, hinside, hx⟩
  · rintro ⟨entries, hlisted, x, hinside, hx⟩
    exact ⟨x, standsIn_value hlisted hinside, hx⟩

end Redaction

end SqlBuilder
