import Mathlib.Data.List.Forall2
import SqlBuilder.Proofs.Value.Reading
import SqlBuilder.Response

/-!
Rows whose keys are spelled in any case. Main statements: ASCII letters of a text count the same in lower case
whatever their own case is, and what a row gives for a name is the one value that stands under it in any case.
-/

namespace SqlBuilder

namespace Text

/-! ### ASCII letters in other cases -/

theorem toLower_of_not_ascii {c : Char} (h : ¬ c.toNat < 128) : c.toLower = c := by
  have hletter : ¬ (c.val ≥ 'A'.val ∧ c.val ≤ 'Z'.val) := by
    rintro ⟨-, hle⟩
    exact h (Nat.lt_of_le_of_lt (UInt32.le_iff_toNat_le.mp hle) (by decide))
  exact dif_neg hletter

/-- An ASCII character and its small form have the same part in lower case. -/
theorem toLower_ascii : ∀ n < 128,
    lowerChar (Char.ofNat n).toLower = lowerChar (Char.ofNat n) ∧
      ((Char.ofNat n).toLower = capitalSigma ↔ Char.ofNat n = capitalSigma) ∧
      isCaseIgnorable (Char.ofNat n).toLower = isCaseIgnorable (Char.ofNat n) ∧
      isCased (Char.ofNat n).toLower = isCased (Char.ofNat n) := by
  decide +kernel

theorem toLower_alike (c : Char) :
    lowerChar c.toLower = lowerChar c ∧ (c.toLower = capitalSigma ↔ c = capitalSigma) ∧
      isCaseIgnorable c.toLower = isCaseIgnorable c ∧ isCased c.toLower = isCased c := by
  by_cases hascii : c.toNat < 128
  · have htable := toLower_ascii c.toNat hascii
    rwa [Char.ofNat_toNat] at htable
  · rw [toLower_of_not_ascii hascii]
    exact ⟨rfl, Iff.rfl, rfl, rfl⟩

theorem dropWhile_map_toLower (cs : List Char) :
    (cs.map Char.toLower).dropWhile isCaseIgnorable = (cs.dropWhile isCaseIgnorable).map Char.toLower := by
  induction cs with
  | nil => rfl
  | cons c cs ih =>
    rw [List.map_cons, List.dropWhile_cons, List.dropWhile_cons, (toLower_alike c).2.2.1, ih]
    split <;> rfl

theorem lowerSigma_map_toLower (afterCased : Bool) (rest : List Char) :
    lowerSigma afterCased (rest.map Char.toLower) = lowerSigma afterCased rest := by
  have hhead : ((rest.map Char.toLower).dropWhile isCaseIgnorable).head?.any isCased =
      (rest.dropWhile isCaseIgnorable).head?.any isCased := by
    rw [dropWhile_map_toLower, List.head?_map]
    cases (rest.dropWhile isCaseIgnorable).head? with
    | none => rfl
    | some c => exact (toLower_alike c).2.2.2
  rw [lowerSigma, lowerSigma, hhead]

theorem lowerFrom_map_toLower (afterCased : Bool) (cs : List Char) :
    lowerFrom afterCased (cs.map Char.toLower) = lowerFrom afterCased cs := by
  induction cs generalizing afterCased with
  | nil => rfl
  | cons c cs ih =>
    obtain ⟨hlower, hsigma, hignorable, hcased⟩ := toLower_alike c
    simp only [List.map_cons, lowerFrom, hlower, hsigma, hignorable, hcased, lowerSigma_map_toLower, ih]

/-- The same text but for the case of its ASCII letters. -/
def SameButCase (s t : String) : Prop :=
  s.toList.map Char.toLower = t.toList.map Char.toLower

instance (s t : String) : Decidable (SameButCase s t) :=
  inferInstanceAs (Decidable (_ = _))

theorem SameButCase.lower_eq {s t : String} (h : SameButCase s t) : lower s = lower t := by
  rw [lower, lower, lowerChars, lowerChars, ← lowerFrom_map_toLower false s.toList, h,
    lowerFrom_map_toLower]

end Text

namespace Row

variable {entries entries' : List (Value × Value)}

/-! ### What stands under a name -/

/-- The values under a name, in whatever case their keys are. -/
def under (entries : List (Value × Value)) (name : String) : List Value :=
  (entries.filter fun entry => Text.lower entry.1.shown == name).map (·.2)

/-- Under the name there is this value and no other one, whatever the case of the key. A name that is missing
stands for null. -/
def Gives (entries : List (Value × Value)) (name : String) (value : Value) : Prop :=
  (under entries name).length ≤ 1 ∧ (under entries name).head?.getD .null = value

theorem find?_lower_eq (entries : List (Value × Value)) (name : String) :
    (entries.find? fun entry => Text.lower entry.1.shown == name).map (·.2) = (under entries name).head? := by
  rw [under, List.head?_map, List.head?_filter]

/-- A name in lower case, which is the same again after it was put in upper case. -/
def IsLowered (name : String) : Prop :=
  Text.lower name = name ∧ Text.lower (Text.upper name) = name

instance (name : String) : Decidable (IsLowered name) :=
  inferInstanceAs (Decidable (_ ∧ _))

theorem mem_under_of_entry? {name candidate : String} (hcandidate : Text.lower candidate = name) {value : Value}
    (h : entry? entries (.text candidate) = some value) : value ∈ under entries name := by
  obtain ⟨entry, hfind, rfl⟩ := Option.map_eq_some_iff.mp h
  have hequal := List.find?_some (p := fun entry : Value × Value => entry.1.equals (.text candidate)) hfind
  have hkey : entry.1 = .text candidate := Value.equals_text_iff.mp hequal
  refine List.mem_map.mpr ⟨entry, List.mem_filter.mpr ⟨List.mem_of_find?_eq_some hfind, ?_⟩, rfl⟩
  rw [hkey]
  exact beq_iff_eq.mpr hcandidate

theorem valueOf_of_found {key : String} {value : Value}
    (h : [key, Text.upper key, Text.lower key].findSome?
      (fun candidate => entry? entries (.text candidate)) = some value) :
    valueOf entries key = value := by
  simp only [valueOf, h]

theorem valueOf_of_unfound {key : String}
    (h : [key, Text.upper key, Text.lower key].findSome?
      (fun candidate => entry? entries (.text candidate)) = none) :
    valueOf entries key = (under entries (Text.lower key)).head?.getD .null := by
  simp only [valueOf, h, find?_lower_eq]

/-- However a key is spelled, and at whichever stage it is found: what is given is the one value under it. -/
theorem valueOf_of_gives {name : String} (hname : IsLowered name) {value : Value} (h : Gives entries name value) :
    valueOf entries name = value := by
  obtain ⟨honce, rfl⟩ := h
  cases hfound : [name, Text.upper name, Text.lower name].findSome?
      fun candidate => entry? entries (.text candidate) with
  | none => rw [valueOf_of_unfound hfound, hname.1]
  | some value =>
    obtain ⟨candidate, hmem, hentry⟩ := List.exists_of_findSome?_eq_some hfound
    have hcandidate : Text.lower candidate = name := by
      simp only [List.mem_cons, List.not_mem_nil, or_false] at hmem
      obtain rfl | rfl | rfl := hmem
      · exact hname.1
      · exact hname.2
      · rw [hname.1, hname.1]
    have hvalue : value ∈ under entries name := mem_under_of_entry? hcandidate hentry
    rw [valueOf_of_found hfound]
    generalize under entries name = values at honce hvalue
    rcases values with _ | ⟨first, _ | ⟨second, rest⟩⟩
    · cases hvalue
    · exact List.mem_singleton.mp hvalue
    · simp at honce

/-! ### Rows in other cases -/

/-- The same key, but for the case of ASCII letters if it is a text. -/
inductive KeyRecased : Value → Value → Prop where
  | text {s t : String} : Text.SameButCase s t → KeyRecased (.text s) (.text t)
  | same (key : Value) : KeyRecased key key

/-- The same values in the same order, under keys that differ in the case of ASCII letters alone. -/
def Recased (entries entries' : List (Value × Value)) : Prop :=
  List.Forall₂ (fun entry entry' => KeyRecased entry.1 entry'.1 ∧ entry.2 = entry'.2) entries entries'

theorem KeyRecased.lower_eq {key key' : Value} (h : KeyRecased key key') :
    Text.lower key.shown = Text.lower key'.shown := by
  cases h with
  | text hsame => exact hsame.lower_eq
  | same key => rfl

theorem Recased.under_eq (h : Recased entries entries') (name : String) :
    under entries name = under entries' name := by
  induction h with
  | nil => rfl
  | cons hentry _ ih =>
    obtain ⟨hkey, hvalue⟩ := hentry
    unfold under at ih ⊢
    rw [List.filter_cons, List.filter_cons, hkey.lower_eq]
    split
    · rw [List.map_cons, List.map_cons, ih, hvalue]
    · exact ih

theorem Recased.gives (h : Recased entries entries') {name : String} {value : Value}
    (hgives : Gives entries name value) : Gives entries' name value := by
  rwa [Gives, ← h.under_eq name]

end Row

end SqlBuilder
