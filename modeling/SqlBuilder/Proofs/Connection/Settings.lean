import Mathlib.Data.List.Nodup
import SqlBuilder.Connection.Config
import SqlBuilder.Proofs.Recorded.Outcome
import SqlBuilder.Proofs.Value.Reading
import SqlBuilder.Response

/-!
A driver's settings looked up by name. Main statement: under a name stands the last option of that name, or
else the setting of a configuration, and nothing if that is null.
-/

namespace SqlBuilder

namespace Row

variable {entries : List (Value × Value)} {name : String}

theorem entry?_cons (key value : Value) (entries : List (Value × Value)) (name : String) :
    entry? ((key, value) :: entries) (.text name) =
      if key.equals (.text name) then some value else entry? entries (.text name) := by
  by_cases h : key.equals (.text name) = true <;> simp [ entry?, h]

theorem entry?_append (entries entries' : List (Value × Value)) (name : String) :
    entry? (entries ++ entries') (.text name) =
      ( entry? entries (.text name)).or ( entry? entries' (.text name)) := by
  unfold entry?
  rw [List.find?_append]
  cases entries.find? fun entry => entry.1.equals (.text name) <;> rfl

/-- Setting an entry changes what stands under its own name only. -/
theorem entry?_setEntry (key value : Value) (entries : List (Value × Value)) (name : String) :
    entry? (Value.setEntry key value entries) (.text name) =
      if key.equals (.text name) then some value else entry? entries (.text name) := by
  induction entries with
  | nil => exact entry?_cons key value [] name
  | cons entry entries ih =>
    obtain ⟨key', value'⟩ := entry
    rw [Value.setEntry]
    split
    · rename_i hsame
      rw [entry?_cons, entry?_cons]
      by_cases hkey : key.equals (.text name) = true
      · obtain rfl : key = .text name := Value.equals_text_iff.mp hkey
        rw [if_pos hsame, if_pos hkey]
      · -- An equal key is not this name either.
        have hkey' : ¬ key'.equals (.text name) = true := by
          intro hname
          obtain rfl : key' = .text name := Value.equals_text_iff.mp hname
          exact hkey (Value.equals_text_iff.mpr (Value.eq_of_text_equals hsame))
        rw [if_neg hkey, if_neg hkey', if_neg hkey']
    · rename_i hother
      rw [entry?_cons, entry?_cons, ih]
      by_cases hkey : key.equals (.text name) = true
      · obtain rfl : key = .text name := Value.equals_text_iff.mp hkey
        rw [if_neg hother, if_pos hkey, if_pos hkey]
      · rw [if_neg hkey, if_neg hkey]

/-! ### Entries left out -/

/-- At most one entry stands under the name. -/
def Once (entries : List (Value × Value)) (name : String) : Prop :=
  (entries.map (·.1)).countP (·.equals (.text name)) ≤ 1

theorem keys_setEntry (key value : Value) (entries : List (Value × Value)) :
    (Value.setEntry key value entries).map (·.1) =
      if entries.any (·.1.equals key) then entries.map (·.1) else entries.map (·.1) ++ [key] := by
  induction entries with
  | nil => rfl
  | cons entry entries ih =>
    rw [Value.setEntry, List.any_cons]
    cases hsame : entry.1.equals key with
    | true => simp
    | false =>
      rw [if_neg (by simp), List.map_cons, ih, Bool.false_or]
      split <;> rfl

theorem Once.setEntry (h : Once entries name) (key value : Value) :
    Once (Value.setEntry key value entries) name := by
  unfold Once at h ⊢
  rw [keys_setEntry]
  split
  · exact h
  · rename_i hnone
    rw [List.countP_append]
    by_cases hkey : key.equals (.text name) = true
    · obtain rfl : key = .text name := Value.equals_text_iff.mp hkey
      have hzero : (entries.map (·.1)).countP (·.equals (.text name)) = 0 := by
        rw [List.countP_eq_zero]
        simpa using hnone
      simp [hzero, Value.equals_text_self]
    · simpa [hkey] using h

theorem Once.foldl_setEntry (h : Once entries name) (options : List (Value × Value)) :
    Once (options.foldl (fun all o => Value.setEntry o.1 o.2 all) entries) name := by
  induction options generalizing entries with
  | nil => exact h
  | cons option options ih => exact ih (h.setEntry option.1 option.2)

theorem entry?_eq_none_of_countP {entries : List (Value × Value)}
    (h : (entries.map (·.1)).countP (·.equals (.text name)) = 0) : entry? entries (.text name) = none := by
  rw [List.countP_eq_zero] at h
  rw [ entry?, Option.map_eq_none_iff, List.find?_eq_none]
  exact fun entry hentry => h entry.1 (List.mem_map_of_mem hentry)

theorem Once.filter (h : Once entries name) (keep : Value × Value → Bool) :
    Once (entries.filter keep) name :=
  Nat.le_trans (List.filter_sublist.map _).countP_le h

/-- What stands under a name after entries were left out by their keys, that name's not among them. -/
theorem entry?_filter_key {keep : Value → Bool} (hkeep : keep (.text name) = true)
    (entries : List (Value × Value)) :
    entry? (entries.filter fun entry => keep entry.1) (.text name) = entry? entries (.text name) := by
  induction entries with
  | nil => rfl
  | cons entry entries ih =>
    obtain ⟨key, value⟩ := entry
    rw [List.filter_cons, entry?_cons, ← ih]
    by_cases hkey : key.equals (.text name) = true
    · obtain rfl : key = .text name := Value.equals_text_iff.mp hkey
      rw [if_pos hkeep, entry?_cons]
    · rw [if_neg hkey]
      split
      · rw [entry?_cons, if_neg hkey]
      · rfl

/-- What stands under a name after entries were left out by their values. -/
theorem Once.entry?_filter (h : Once entries name) (keep : Value → Bool) :
    entry? (entries.filter fun entry => keep entry.2) (.text name) =
      ( entry? entries (.text name)).filter keep := by
  induction entries with
  | nil => rfl
  | cons entry entries ih =>
    obtain ⟨key, value⟩ := entry
    by_cases hkey : key.equals (.text name) = true
    · have hrest : (entries.map (·.1)).countP (·.equals (.text name)) = 0 := by
        simpa [Once, hkey] using h
      have hkept : entry? (entries.filter fun entry => keep entry.2) (.text name) = none := by
        refine entry?_eq_none_of_countP (Nat.le_zero.mp (hrest ▸ ?_))
        exact (List.filter_sublist.map _).countP_le
      rw [entry?_cons, if_pos hkey, List.filter_cons]
      cases hvalue : keep value with
      | true => rw [if_pos rfl, entry?_cons, if_pos hkey, Option.filter_some_pos hvalue]
      | false => rw [if_neg (by simp), hkept, Option.filter_some_neg (by simp [hvalue])]
    · have hrest : Once entries name := by simpa [Once, hkey] using h
      rw [entry?_cons, if_neg hkey, List.filter_cons, ← ih hrest]
      split
      · rw [entry?_cons, if_neg hkey]
      · rfl

/-- Which of several entries would count does not matter where there is one. -/
theorem Once.entry?_reverse (h : Once entries name) :
    entry? entries.reverse (.text name) = entry? entries (.text name) := by
  induction entries with
  | nil => rfl
  | cons entry entries ih =>
    obtain ⟨key, value⟩ := entry
    rw [List.reverse_cons, entry?_append, entry?_cons, entry?_cons]
    by_cases hkey : key.equals (.text name) = true
    · have hrest : (entries.reverse.map (·.1)).countP (·.equals (.text name)) = 0 := by
        simpa [Once, hkey] using h
      rw [entry?_eq_none_of_countP hrest, if_pos hkey, if_pos hkey]
      rfl
    · have hrest : Once entries name := by simpa [Once, hkey] using h
      rw [if_neg hkey, if_neg hkey, ih hrest]
      exact Option.or_none

/-- Keys that are texts stand once if the texts are distinct. -/
theorem once_of_nodup {names : List String} (hkeys : entries.map (·.1) = names.map Value.text)
    (h : names.Nodup) (name : String) : Once entries name := by
  have hequals : ∀ s : String, (Value.text s).equals (.text name) = (s == name) := fun s => by
    simp [Value.equals]
  rw [Once, hkeys, List.countP_map]
  simp only [Function.comp_def, hequals]
  exact List.nodup_iff_count_le_one.mp h name

end Row

namespace Connection

open Row ( entry? Once)

/-- What is set under a name; of several entries the last counts. -/
def option? (options : Options) (name : String) : Option Value :=
  entry? options.reverse (.text name)

theorem entry?_foldl_setEntry (options entries : List (Value × Value)) (name : String) :
    entry? (options.foldl (fun all o => Value.setEntry o.1 o.2 all) entries) (.text name) =
      (option? options name).or ( entry? entries (.text name)) := by
  induction options generalizing entries with
  | nil => rfl
  | cons option options ih =>
    obtain ⟨key, value⟩ := option
    rw [List.foldl_cons, ih, Row.entry?_setEntry, option?, option?, List.reverse_cons, Row.entry?_append,
      Row.entry?_cons, Option.or_assoc]
    congr 1
    split <;> rfl

namespace Config

/-- The settings under the driver's names, before options are set over them. -/
def ownSettings (config : Config) : List (Value × Value) := [
  (.text "account", config.account), (.text "region", config.region), (.text "user", config.username),
  (.text "password", config.password), (.text "warehouse", config.warehouse),
  (.text "database", config.database), (.text "schema", config.schema), (.text "role", config.role),
  (.text "autocommit", config.autocommit), (.text "login_timeout", config.loginTimeout),
  (.text "paramstyle", .text "qmark")]

variable {config : Config} {settings : List (Value × Value)}

theorem driverSettings_eq_ok : config.driverSettings = .ok settings ↔
    ∃ options, config.optionEntries = .ok options ∧
      (options.foldl (fun all o => Value.setEntry o.1 o.2 all) config.ownSettings).filter
        (fun entry => !entry.2.isNull) = settings := by
  unfold driverSettings
  rw [Recorded.except_bind_eq_ok]
  exact exists_congr fun options => and_congr_right fun _ => ⟨Except.ok.inj, congrArg Except.ok⟩

theorem once_ownSettings (config : Config) (name : String) : Once config.ownSettings name := by
  have hkeys : config.ownSettings.map (·.1) = [
      "account", "region", "user", "password", "warehouse", "database", "schema", "role", "autocommit",
      "login_timeout", "paramstyle"].map Value.text := rfl
  exact Row.once_of_nodup hkeys (by decide) name

/-- What the driver is told under a name. -/
theorem entry?_driverSettings {options : Options} (hoptions : config.optionEntries = .ok options)
    (h : config.driverSettings = .ok settings) (name : String) :
    entry? settings (.text name) =
      ((option? options name).or ( entry? config.ownSettings (.text name))).filter (!·.isNull) := by
  obtain ⟨options', hoptions', rfl⟩ := driverSettings_eq_ok.mp h
  obtain rfl := Except.ok.inj (hoptions.symm.trans hoptions')
  rw [((once_ownSettings config name).foldl_setEntry options).entry?_filter (!·.isNull),
    entry?_foldl_setEntry]

end Config

end Connection

end SqlBuilder
