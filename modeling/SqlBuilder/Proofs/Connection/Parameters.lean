import Mathlib.Data.List.Forall2
import SqlBuilder.Proofs.Connection.Precedence
import SqlBuilder.Proofs.Uri.Form

/-!
Where a configuration keeps the parameters of a data source name. Main statement: each of them is kept in one
place, its own setting or an option, as the value that its text is read as.
-/

namespace SqlBuilder.Connection

theorem lookup_of_mem {query : List (String × String)} (hdistinct : (query.map (·.1)).Nodup)
    {pair : String × String} (h : pair ∈ query) : query.lookup pair.1 = some pair.2 := by
  obtain ⟨before, after, rfl⟩ := List.append_of_mem h
  rw [List.map_append, List.nodup_append] at hdistinct
  refine List.lookup_eq_some_iff.mpr ⟨before, after, rfl, fun other hother => ?_⟩
  have hdifferent := hdistinct.2.2 other.1 (List.mem_map_of_mem hother) pair.1 (by simp)
  simpa using Ne.symm hdifferent

theorem Dsn.query_given {text : String} {dsn : Dsn} (h : parse text = .ok dsn) :
    ∀ pair ∈ dsn.query, pair.2 ≠ "" := by
  obtain ⟨query, hquery⟩ := query_of_parse h
  rw [hquery]
  exact Uri.queryPairs_given query

namespace Config

/-- The setting for parameters of this name, if there is one. -/
def settingOf? (config : Config) (name : String) : Option Value :=
  match name with
  | "warehouse" => some config.warehouse
  | "role" => some config.role
  | "account" => some config.account
  | "region" => some config.region
  | "autocommit" => some config.autocommit
  | "login_timeout" => some config.loginTimeout
  | _ => none

theorem isNone_settingOf? (config : Config) (name : String) :
    (config.settingOf? name).isNone = !queryFields.contains name := by
  unfold settingOf?
  split
  case h_7 => simp_all [queryFields]
  all_goals rfl

/-- What a parameter is read as, wherever it is kept. -/
def readParameter (name text : String) : Except Error Value :=
  match name with
  | "autocommit" => parseBool "autocommit" text
  | "login_timeout" => parseFloat "login_timeout" text
  | name => optionValue name text

/-- Each parameter of the name is kept as what it is read as: in the setting of its name where there is one, and
else as one of the options, in their order. Everything else is what the name says, but for the account and the
region, which the host may complete. -/
structure Keeps (config : Config) (dsn : Dsn) (options : Options) : Prop where
  settings : ∀ pair ∈ dsn.query, ∀ value ∈ config.settingOf? pair.1, readParameter pair.1 pair.2 = .ok value
  leftOver : List.Forall₂ (fun pair option => option.1 = .text pair.1 ∧ readParameter pair.1 pair.2 = .ok option.2)
    (dsn.query.filter fun pair => (config.settingOf? pair.1).isNone) options
  once : ∀ pair ∈ dsn.query,
    (config.settingOf? pair.1).toList.length + (options.map (·.1)).countP (·.equals (.text pair.1)) = 1
  others : config = { ofName dsn config.autocommit config.loginTimeout options with
    account := config.account, region := config.region }

theorem readParameter_option {name : String} (h : queryFields.contains name = false) (text : String) :
    readParameter name text = optionValue name text := by
  unfold readParameter
  split
  case h_1 => exact absurd h (by decide)
  case h_2 => exact absurd h (by decide)
  case h_3 => rfl

theorem readParameter_text {name : String} (hbool : name ≠ "autocommit") (hfloat : name ≠ "login_timeout")
    (hinteger : integerOptions.contains name = false) (text : String) :
    readParameter name text = .ok (.text text) := by
  unfold readParameter
  split
  case h_1 => exact absurd rfl hbool
  case h_2 => exact absurd rfl hfloat
  case h_3 =>
    rw [optionValue, hinteger]
    rfl

/-- What the settings for parameters are. The host may complete an account and a region that the query has not. -/
structure ReadsSettings (config : Config) (query : List (String × String)) : Prop where
  warehouse : config.warehouse = textOrNull (query.lookup "warehouse")
  role : config.role = textOrNull (query.lookup "role")
  account : (textOrNull (query.lookup "account")).isTrue = true →
    config.account = textOrNull (query.lookup "account")
  region : (textOrNull (query.lookup "region")).isTrue = true → config.region = textOrNull (query.lookup "region")
  autocommit : parameter parseBool query "autocommit" = .ok config.autocommit
  loginTimeout : parameter parseFloat query "login_timeout" = .ok config.loginTimeout

theorem ReadsSettings.readParameter_eq {config : Config} {query : List (String × String)}
    (h : config.ReadsSettings query) {name text : String} (hlookup : query.lookup name = some text)
    (hgiven : text ≠ "") {value : Value} (hvalue : config.settingOf? name = some value) :
    readParameter name text = .ok value := by
  have htrue : (textOrNull (some text)).isTrue = true := by
    simpa [textOrNull, Value.isTrue] using hgiven
  have htext (name : String) (hname : name ∈ ["warehouse", "role", "account", "region"]) :
      readParameter name text = .ok (textOrNull (some text)) := by
    simp only [List.mem_cons, List.not_mem_nil, or_false] at hname
    obtain rfl | rfl | rfl | rfl := hname <;>
      exact readParameter_text (by decide) (by decide) (by decide) text
  unfold settingOf? at hvalue
  split at hvalue
  case h_7 => cases hvalue
  all_goals obtain rfl := Option.some.inj hvalue
  case h_1 =>
    rw [h.warehouse, hlookup]
    exact htext _ (by simp)
  case h_2 =>
    rw [h.role, hlookup]
    exact htext _ (by simp)
  case h_3 =>
    rw [h.account (hlookup ▸ htrue), hlookup]
    exact htext _ (by simp)
  case h_4 =>
    rw [h.region (hlookup ▸ htrue), hlookup]
    exact htext _ (by simp)
  case h_5 =>
    have hread := h.autocommit
    rw [parameter, hlookup] at hread
    exact hread
  case h_6 =>
    have hread := h.loginTimeout
    rw [parameter, hlookup] at hread
    exact hread

/-- How often a parameter is among the options: once if it has no setting of its own, and else not at all. -/
theorem countP_of_queryOptions {query : List (String × String)} {options : Options}
    (hdistinct : (query.map (·.1)).Nodup) (h : queryOptions query = .ok options) {pair : String × String}
    (hpair : pair ∈ query) :
    (options.map (·.1)).countP (·.equals (.text pair.1)) = if queryFields.contains pair.1 then 0 else 1 := by
  have hequals (name : String) : (Value.text name).equals (.text pair.1) = (name == pair.1) := by
    simp [Value.equals]
  have hnames : ((query.filter fun pair => !queryFields.contains pair.1).map (·.1)).Nodup :=
    hdistinct.sublist (List.filter_sublist.map _)
  rw [keys_of_queryOptions h, List.countP_map]
  simp only [Function.comp_def, hequals]
  change List.count pair.1 _ = _
  rw [hnames.count]
  cases hfield : queryFields.contains pair.1 with
  | true =>
    rw [if_neg, if_pos rfl]
    intro hmem
    obtain ⟨other, hother, hsame⟩ := List.mem_map.mp hmem
    have hunread := (List.mem_filter.mp hother).2
    rw [hsame, hfield] at hunread
    cases hunread
  | false =>
    rw [if_pos (List.mem_map_of_mem (List.mem_filter.mpr ⟨hpair, by rw [hfield]; rfl⟩))]
    rfl

/-- Every parameter of a name that is accepted is kept, and kept once. -/
theorem ofDsn_keeps {text : String} {dsn : Dsn} {config : Config} (hdsn : Dsn.parse text = .ok dsn)
    (h : ofDsn text [] = .ok config) : ∃ options, config.Keeps dsn options := by
  obtain ⟨-, dsn', hdsn', hparsed⟩ := ofDsn_eq_ok.mp h
  obtain rfl := Except.ok.inj (hdsn.symm.trans hdsn')
  obtain ⟨autocommit, loginTimeout, own, options, hread, hfinished⟩ := ofParsed_eq_ok.mp hparsed
  obtain rfl : own = options := Except.ok.inj hread.merged
  obtain ⟨account, region, hnormalize, haccount, hregion⟩ :=
    normalize_eq_ok (ofName dsn autocommit loginTimeout own) dsn.host rfl rfl
  have hconfig := Except.ok.inj (hnormalize.symm.trans hfinished)
  have hdistinct := Dsn.nodup_query hdsn
  refine ⟨own, ?settings, ?leftOver, ?once, ?others⟩
  case settings =>
    have hsettings : config.ReadsSettings dsn.query := by
      subst hconfig
      exact ⟨rfl, rfl, haccount, hregion, hread.autocommit, hread.loginTimeout⟩
    exact fun pair hpair value hvalue =>
      hsettings.readParameter_eq (lookup_of_mem hdistinct hpair) (Dsn.query_given hdsn pair hpair) hvalue
  case leftOver =>
    have hoptions := Recorded.except_mapM_eq_ok.mp hread.leftOver
    simp only [isNone_settingOf?]
    have hnone : ∀ pair ∈ dsn.query.filter fun pair => !queryFields.contains pair.1,
        queryFields.contains pair.1 = false := by
      intro pair hpair
      simpa using (List.mem_filter.mp hpair).2
    refine ((List.forall₂_and_left _ _).mpr ⟨hnone, hoptions⟩).imp fun pair option ⟨hfield, hoption⟩ => ?_
    obtain ⟨value, hvalue, hoption⟩ := Recorded.except_bind_eq_ok.mp hoption
    obtain rfl := Except.ok.inj hoption
    exact ⟨rfl, (readParameter_option hfield pair.2).trans hvalue⟩
  case once =>
    intro pair hpair
    have hsetting := isNone_settingOf? config pair.1
    rw [countP_of_queryOptions hdistinct hread.leftOver hpair]
    cases hfield : queryFields.contains pair.1 <;> cases hvalue : config.settingOf? pair.1 <;>
      simp_all
  case others =>
    rw [← hconfig]
    rfl

end Config

end SqlBuilder.Connection
