import Mathlib.Data.List.Forall2
import SqlBuilder.Proofs.Text.Cutting
import SqlBuilder.Redaction

/-!
Keys in other spellings. Main statement: whether what stands under a key is masked can be told from the
letters and digits of the key in lower case, so that no separator and no change of case uncovers it.
-/

namespace SqlBuilder.Redaction

/-- The letters and digits of a key in lower case. -/
def core (key : String) : List Char :=
  compact (Text.lowerChars key.toList)

/-- A token that occurs in a key is left of it, without its separators, when those of the key go. -/
theorem holdsToken_iff (token : String) (lowered : List Char) :
    holdsToken token lowered = true ↔ compact token.toList <:+: compact lowered := by
  rw [holdsToken, Bool.or_eq_true, Text.occursIn_iff, Text.occursIn_iff]
  constructor
  · rintro (hraw | hcompact)
    · exact hraw.filter Text.isLetterOrDigit
    · exact hcompact
  · exact .inr

theorem isSensitiveKey_iff (key : String) :
    isSensitiveKey key = true ↔ ∃ token ∈ keyTokens, compact token.toList <:+: core key := by
  rw [isSensitiveKey, List.any_eq_true]
  exact exists_congr fun token => and_congr_right fun _ => holdsToken_iff token _

theorem isSensitiveKey_congr {key key' : String} (h : core key = core key') :
    isSensitiveKey key = isSensitiveKey key' := by
  rw [Bool.eq_iff_iff, isSensitiveKey_iff, isSensitiveKey_iff, h]

/-! ### Entries -/

/-- The same values, each under a key with the same letters and digits in lower case. -/
def Respelled {α : Type} (entries entries' : List (String × α)) : Prop :=
  List.Forall₂ (fun entry entry' => core entry.1 = core entry'.1 ∧ entry.2 = entry'.2) entries entries'

/-- What is shown in the place of a value is the same under both keys. -/
theorem Respelled.map_congr {α : Type} {entries entries' : List (String × α)} (h : Respelled entries entries')
    (masked : α) :
    (entries.map fun entry => if isSensitiveKey entry.1 then masked else entry.2) =
      entries'.map fun entry => if isSensitiveKey entry.1 then masked else entry.2 := by
  induction h with
  | nil => rfl
  | cons hentry _ ih =>
    obtain ⟨hkey, hvalue⟩ := hentry
    rw [List.map_cons, List.map_cons, ih, isSensitiveKey_congr hkey, hvalue]

/-- Settings of a driver, whose names are texts. -/
def ofTexts (entries : List (String × Value)) : List (Value × Value) :=
  entries.map fun entry => (.text entry.1, entry.2)

theorem settings_ofTexts (entries : List (String × Value)) :
    settings (ofTexts entries) =
      .ok (entries.map fun entry => (.text entry.1, if isSensitiveKey entry.1 then .text mask else entry.2)) := by
  induction entries with
  | nil => rfl
  | cons entry entries ih =>
    rw [settings, ofTexts, List.map_cons, List.mapM_cons]
    change (do let masked ← settings (ofTexts entries); return _ :: masked) = _
    rw [ih]
    rfl

/-- Keys with the same letters and digits in lower case are sensitive alike, so that a query and settings
show the same values under them. -/
theorem masking_respelled :
    (∀ key key' : String, core key = core key' → isSensitiveKey key = isSensitiveKey key') ∧
      (∀ pairs pairs' : List (String × String), Respelled pairs pairs' →
        (query pairs).map (·.2) = (query pairs').map (·.2)) ∧
      ∀ entries entries' : List (String × Value), Respelled entries entries' →
        ∃ masked masked', settings (ofTexts entries) = .ok masked ∧ settings (ofTexts entries') = .ok masked' ∧
          masked.map (·.2) = masked'.map (·.2) := by
  refine ⟨fun key key' h => isSensitiveKey_congr h, fun pairs pairs' h => ?_, fun entries entries' h => ?_⟩
  · rw [query, query, List.map_map, List.map_map]
    exact h.map_congr mask
  · refine ⟨_, _, settings_ofTexts entries, settings_ofTexts entries', ?_⟩
    rw [List.map_map, List.map_map]
    exact h.map_congr (.text mask)

theorem masking_respelled_separators :
    let written := [("pass_word", "hunter2"), ("user", "bob")]
    let respelled := [("Pass-Word", "hunter2"), ("USER", "bob")]
    Respelled written respelled ∧ (query written).map (·.2) = (query respelled).map (·.2) ∧
      (query respelled).map (·.2) = [mask, "bob"] := by
  intro written respelled
  have h : Respelled written respelled := .cons (by decide) (.cons (by decide) .nil)
  exact ⟨h, masking_respelled.2.1 written respelled h, by decide⟩

end SqlBuilder.Redaction
