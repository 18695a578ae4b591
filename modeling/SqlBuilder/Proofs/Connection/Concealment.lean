import SqlBuilder.Connection.Config
import SqlBuilder.Proofs.Uri.Percent
import SqlBuilder.Proofs.Uri.Query

/-!
What settings show of their secrets. Main statements: data source names that differ in their passwords and in
the values of sensitive parameters are accepted alike, and the settings made from them bear the same label.
-/

namespace SqlBuilder.Connection

open Recorded (Agree agree_refl agree_bind_same agree_foldlM agree_mapM)
open Uri (IsEncoded PairAlike QueryAlike Template)

/-- The value under the key is not to be shown. -/
def IsSecret (key : String) : Prop :=
  Redaction.isSensitiveKey key = true

theorem redacted_query_alike {query query' : List (String × String)}
    (h : List.Forall₂ (PairAlike IsSecret) query query') : Redaction.query query = Redaction.query query' := by
  unfold Redaction.query
  induction h with
  | nil => rfl
  | @cons pair pair' _ _ hpair _ ih =>
    obtain ⟨key, value⟩ := pair
    obtain ⟨key', value'⟩ := pair'
    obtain ⟨rfl, hvalue | hsecret⟩ := hpair
    · obtain rfl : value = value' := hvalue
      rw [List.map_cons, List.map_cons, ih]
    · have hmasked : Redaction.isSensitiveKey key = true := hsecret
      simp only [List.map_cons, if_pos hmasked, ih]

/-! ### Data source names -/

namespace Dsn

/-- A name with another password and query. -/
def withSecrets (password : Option String) (query : List (String × String)) (dsn : Dsn) : Dsn :=
  { dsn with password, query }

/-- The same name, but for the password, which is there in both, and for the values of sensitive
parameters. -/
inductive SecretsApart : Dsn → Dsn → Prop
  | intro (dsn : Dsn) {password password' : Option String} {query query' : List (String × String)}
      (given : (given? password).isSome = true) (given' : (given? password').isSome = true)
      (parameters : List.Forall₂ (PairAlike IsSecret) query query') :
      SecretsApart (dsn.withSecrets password query) (dsn.withSecrets password' query')

theorem SecretsApart.redacted_eq {dsn dsn' : Dsn} (h : SecretsApart dsn dsn') :
    dsn.redacted = dsn'.redacted := by
  cases h with
  | intro dsn given given' parameters =>
    simp only [redacted, redactedUser, withSecrets, given, given', redacted_query_alike parameters]

theorem component?_given {cs : List Char} (h : cs ≠ []) : (given? (component? (some cs))).isSome = true := by
  obtain ⟨c, cs, rfl⟩ := List.exists_cons_of_ne_nil h
  have htext : String.ofList (Uri.decode (c :: cs)) ≠ "" := by
    intro hempty
    exact Uri.decode_ne_nil h (String.ofList_injective hempty)
  simp [component?, given?, htext]

/-- The driver is named by the scheme. -/
theorem driver_of_parse {text : String} {dsn : Dsn} (h : parse text = .ok dsn) :
    dsn.driver = String.ofList (Uri.cutScheme (Uri.clean text.toList)).1 := by
  unfold parse at h
  obtain ⟨parts, hparts, h⟩ := Recorded.except_bind_eq_ok.mp h
  obtain ⟨port, -, h⟩ := Recorded.except_bind_eq_ok.mp h
  rw [← Uri.scheme_of_parts hparts]
  exact (congrArg driver (Except.ok.inj h)).symm

/-- What a password may be written as. -/
structure IsPassword (cs : List Char) : Prop where
  encoded : IsEncoded cs
  given : cs ≠ []

theorem IsPassword.unbracketed {cs : List Char} (h : IsPassword cs) : '[' ∉ cs ∧ ']' ∉ cs :=
  ⟨h.encoded.not_mem (by decide) (by decide), h.encoded.not_mem (by decide) (by decide)⟩

/-- Names that differ in their secrets are read alike. -/
theorem parse_agree (t : Template) (hscheme : Uri.isScheme t.cleaned.scheme = true)
    {password password' : List Char} {query query' : Option (List Char)} (hpassword : IsPassword password)
    (hpassword' : IsPassword password') (hquery : QueryAlike IsSecret query query') :
    Agree SecretsApart (parse (String.ofList (t.write password query)))
      (parse (String.ofList (t.write password' query'))) := by
  unfold parse
  rw [t.parts_write hscheme hpassword.encoded hquery.plain.1,
    t.parts_write hscheme hpassword'.encoded hquery.plain.2]
  simp only [bind_assoc, pure_bind, Template.userInfo_authority]
  rw [t.cleaned.checkBrackets_authority hpassword.unbracketed hpassword'.unbracketed]
  refine agree_bind_same _ fun _ => ?_
  refine (t.cleaned.checkAuthority_authority hpassword.encoded.undisguised
    hpassword'.encoded.undisguised).bind fun _ _ _ => ?_
  rw [t.cleaned.port_authority password password', t.cleaned.host?_authority password password']
  refine agree_bind_same _ fun port => ?_
  refine .ok <| .intro
    { driver := _, username := _, host := _, port, database := _, schema := _, path := _ }
    (component?_given hpassword.given) (component?_given hpassword'.given) (Uri.queryPairs_alike hquery)

end Dsn

/-! ### Settings -/

namespace Config

/-- Settings with another password, other options and another name. -/
def withSecrets (password options : Value) (dsn : Option Dsn) (config : Config) : Config :=
  { config with password, options, dsn }

/-- No options, or a mapping of them. -/
def AreOptions (options : Value) : Prop :=
  options = .null ∨ ∃ entries, options = .dict entries

/-- The same settings, but for the password and the options. Their names are redacted to the same text. -/
inductive ShownAlike : Config → Config → Prop
  | intro (config : Config) {password password' options options' : Value} {dsn dsn' : Option Dsn}
      (mapping : AreOptions options) (mapping' : AreOptions options')
      (names : dsn.map Dsn.redacted = dsn'.map Dsn.redacted) :
      ShownAlike (config.withSecrets password options dsn) (config.withSecrets password' options' dsn')

variable {config config' : Config}

theorem ShownAlike.redactedDsn_eq (h : ShownAlike config config') :
    config.redactedDsn = config'.redactedDsn := by
  cases h with
  | @intro config _ _ _ _ dsn dsn' mapping mapping' names =>
    cases dsn with
    | none =>
      cases dsn' with
      | none => rfl
      | some dsn' => cases names
    | some dsn =>
      cases dsn' with
      | none => cases names
      | some dsn' => exact congrArg Except.ok (Option.some.inj names)

theorem ShownAlike.label_eq (h : ShownAlike config config') : config.label = config'.label := by
  rw [label, label, h.redactedDsn_eq]
  cases h with
  | intro => rfl

theorem ShownAlike.autocommit_eq (h : ShownAlike config config') : config.autocommit = config'.autocommit := by
  cases h with
  | intro => rfl

theorem ShownAlike.areOptions (h : ShownAlike config config') :
    AreOptions config.options ∧ AreOptions config'.options := by
  cases h with
  | intro config mapping mapping' names => exact ⟨mapping, mapping'⟩

/-- There is nothing in such settings that the driver's could not be made from. -/
theorem driverSettings_ok (h : AreOptions config.options) :
    ∃ settings, config.driverSettings = .ok settings := by
  have hentries : ∃ entries, config.optionEntries = .ok entries := by
    unfold optionEntries
    obtain hnull | ⟨entries, hdict⟩ := h
    · rw [hnull]
      exact ⟨[], rfl⟩
    · rw [hdict]
      split
      · exact ⟨_, rfl⟩
      · exact ⟨[], rfl⟩
  obtain ⟨entries, hentries⟩ := hentries
  rw [driverSettings, hentries]
  exact ⟨_, rfl⟩

/-! ### Making settings -/

theorem fillFromHost_withSecrets (password options : Value) (dsn : Option Dsn) (config : Config) :
    (config.withSecrets password options dsn).fillFromHost =
      withSecrets password options dsn <$> config.fillFromHost := by
  have hhost : (config.withSecrets password options dsn).host = config.host := rfl
  unfold fillFromHost
  rw [hhost]
  split
  · split <;> rfl
  · rfl
  · split <;> rfl

theorem normalize_withSecrets (password options : Value) (dsn : Option Dsn) (config : Config) :
    (config.withSecrets password options dsn).normalize =
      withSecrets password options dsn <$> config.normalize := by
  have huser : (config.withSecrets password options dsn).user = config.user := rfl
  have husername : (config.withSecrets password options dsn).username = config.username := rfl
  unfold normalize
  rw [huser, husername]
  split
  · exact fillFromHost_withSecrets password options dsn { config with username := config.user }
  · exact fillFromHost_withSecrets password options dsn config

theorem ShownAlike.normalize (h : ShownAlike config config') :
    Agree ShownAlike config.normalize config'.normalize := by
  cases h with
  | intro config mapping mapping' names =>
    rw [normalize_withSecrets, normalize_withSecrets]
    cases config.normalize with
    | error e => exact .error e e
    | ok config => exact .ok (.intro config mapping mapping' names)

theorem setPlain?_withSecrets {name : String} (h : name ≠ "password") (password options value : Value)
    (dsn : Option Dsn) (config : Config) :
    (config.withSecrets password options dsn).setPlain? name value =
      (config.setPlain? name value).map (withSecrets password options dsn) := by
  unfold setPlain?
  split
  case h_5 => exact absurd rfl h
  all_goals rfl

theorem ShownAlike.set (h : ShownAlike config config') {name : String} (hname : name ≠ "options")
    (value : Value) : Agree ShownAlike (config.set name value) (config'.set name value) := by
  unfold Config.set
  split
  · exact absurd rfl hname
  · cases h with
    | intro config mapping mapping' names =>
      split
      · exact .error _ _
      · exact .ok (.intro config mapping mapping' rfl)
  · by_cases hpassword : name = "password"
    · subst hpassword
      cases h with
      | intro config mapping mapping' names => exact .ok (.intro config mapping mapping' names)
    · cases h with
      | intro config mapping mapping' names =>
        rw [setPlain?_withSecrets hpassword, setPlain?_withSecrets hpassword]
        cases config.setPlain? name value with
        | none => exact .error _ _
        | some config => exact .ok (.intro config mapping mapping' names)

theorem ShownAlike.setAll (h : ShownAlike config config') {settings : List (String × Value)}
    (hnames : ∀ setting ∈ settings, setting.1 ≠ "options") :
    Agree ShownAlike (config.setAll settings) (config'.setAll settings) := by
  unfold Config.setAll
  split
  · exact .error _ _
  · exact agree_foldlM settings (fun _ _ setting hmem h => h.set (hnames setting hmem) setting.2) h

/-! ### Settings from a name -/

/-- No parameter with a meaning of its own is sensitive. -/
theorem meant_public : ∀ key ∈ queryFields ++ integerOptions, ¬ IsSecret key := by
  unfold IsSecret
  decide +kernel

variable {query query' : List (String × String)}

theorem parameter_alike (h : List.Forall₂ (PairAlike IsSecret) query query')
    (read : String → String → Except Error Value) (key : String) (hkey : key ∈ queryFields) :
    parameter read query key = parameter read query' key := by
  rw [parameter, parameter, Uri.lookup_alike h (meant_public key (List.mem_append_left _ hkey))]

theorem optionValue_agree {pair pair' : String × String} (h : PairAlike IsSecret pair pair') :
    Agree (fun _ _ => True) (optionValue pair.1 pair.2) (optionValue pair'.1 pair'.2) := by
  obtain ⟨hkey, hvalue | hsecret⟩ := h
  · rw [hkey, hvalue]
    exact agree_refl (fun _ => trivial) _
  · have htext : integerOptions.contains pair.1 = false := by
      by_contra hinteger
      exact meant_public pair.1 (List.mem_append_right _ (by simpa using hinteger)) hsecret
    rw [optionValue, optionValue, ← hkey, htext]
    exact .ok trivial

theorem queryOptions_agree (h : List.Forall₂ (PairAlike IsSecret) query query') :
    Agree (fun _ _ => True) (queryOptions query) (queryOptions query') := by
  have hoptions : List.Forall₂ (PairAlike IsSecret) (query.filter fun pair => !queryFields.contains pair.1)
      (query'.filter fun pair => !queryFields.contains pair.1) := by
    refine List.rel_filter (fun pair pair' hpair => ?_) h
    simp only [hpair.1]
  have hread (pair pair' : String × String) (hpair : PairAlike IsSecret pair pair') :
      Agree (fun _ _ => True) (do return (Value.text pair.1, ← optionValue pair.1 pair.2))
        (do return (Value.text pair'.1, ← optionValue pair'.1 pair'.2)) :=
    (optionValue_agree hpair).bind fun _ _ _ => .ok trivial
  exact (agree_mapM hoptions hread).mono fun _ _ _ => trivial

theorem mergeOptions_agree (options options' : Options) (further : Value) :
    Agree (fun _ _ => True) (mergeOptions options further) (mergeOptions options' further) := by
  unfold mergeOptions
  split
  · exact agree_bind_same _ fun _ => .ok trivial
  · exact .ok trivial

theorem areOptions_optionsOrNull (options : Options) : AreOptions (optionsOrNull options) := by
  unfold optionsOrNull
  split
  · exact .inl rfl
  · exact .inr ⟨options, rfl⟩

theorem ofParsed_unsupported {dsn : Dsn} (h : dsn.driver ≠ "snowflake") (settings : List (String × Value)) :
    ofParsed dsn settings = .error (.schemeUnsupported dsn.driver) := by
  unfold ofParsed
  rw [if_pos h]
  rfl

theorem ofParsed_agree {dsn dsn' : Dsn} (h : dsn.SecretsApart dsn') (settings : List (String × Value)) :
    Agree ShownAlike (ofParsed dsn settings) (ofParsed dsn' settings) := by
  have hredacted : dsn.redacted = dsn'.redacted := h.redacted_eq
  cases h with
  | @intro dsn password password' query query' given given' parameters =>
    have hsame {password : Option String} {query : List (String × String)} :
        (dsn.withSecrets password query).driver = dsn.driver := rfl
    by_cases hdriver : dsn.driver = "snowflake"
    · have hlookup (key : String) (hkey : key ∈ queryFields) : query.lookup key = query'.lookup key :=
        Uri.lookup_alike parameters (meant_public key (List.mem_append_left _ hkey))
      unfold ofParsed
      rw [if_neg (not_not_intro (hsame.trans hdriver)), if_neg (not_not_intro (hsame.trans hdriver))]
      simp only [Dsn.withSecrets]
      rw [hlookup "account" (by decide), hlookup "region" (by decide), hlookup "warehouse" (by decide),
        hlookup "role" (by decide), parameter_alike parameters parseBool "autocommit" (by decide),
        parameter_alike parameters parseFloat "login_timeout" (by decide)]
      refine agree_bind_same _ fun autocommit => agree_bind_same _ fun loginTimeout => ?_
      refine (queryOptions_agree parameters).bind fun options options' _ => ?_
      refine (mergeOptions_agree options options' _).bind fun options options' _ => ?_
      refine Agree.bind (r := ShownAlike) ?_ fun _ _ hconfig => hconfig.normalize
      refine ShownAlike.setAll ?_ fun setting hsetting => ?_
      · exact .intro
          { host := _, username := _, database := _, schema := _, warehouse := _, role := _, account := _,
            region := _, autocommit, loginTimeout }
          (areOptions_optionsOrNull options) (areOptions_optionsOrNull options') (congrArg some hredacted)
      · simpa using (List.mem_filter.mp hsetting).2
    · rw [ofParsed_unsupported (hsame.trans_ne hdriver), ofParsed_unsupported (hsame.trans_ne hdriver)]
      exact .error _ _

theorem ofDsn_schemeless {text : String} (h : (Uri.cutScheme (Uri.clean text.toList)).1 = [])
    (settings : List (String × Value)) : ∃ e, ofDsn text settings = .error e := by
  unfold ofDsn
  split
  · exact ⟨_, rfl⟩
  · cases hparse : Dsn.parse text with
    | error e => exact ⟨e, rfl⟩
    | ok dsn =>
      have hdriver : dsn.driver = "" := by rw [Dsn.driver_of_parse hparse, h, String.ofList_nil]
      exact ⟨_, ofParsed_unsupported (hdriver.trans_ne (by decide)) settings⟩

/-- Names that differ in their secrets are accepted alike, and the settings from them are shown alike. -/
theorem ofDsn_agree (t : Template) {password password' : List Char} {query query' : Option (List Char)}
    (hpassword : Dsn.IsPassword password) (hpassword' : Dsn.IsPassword password')
    (hquery : QueryAlike IsSecret query query') (settings : List (String × Value)) :
    Agree ShownAlike (ofDsn (String.ofList (t.write password query)) settings)
      (ofDsn (String.ofList (t.write password' query')) settings) := by
  cases hscheme : Uri.isScheme t.cleaned.scheme with
  | true =>
    unfold ofDsn
    split
    · exact .error _ _
    · exact (Dsn.parse_agree t hscheme hpassword hpassword' hquery).bind fun _ _ h => ofParsed_agree h settings
  | false =>
    have hschemeless (password : List Char) (query : Option (List Char)) :
        (Uri.cutScheme (Uri.clean (String.ofList (t.write password query)).toList)).1 = [] := by
      rw [String.toList_ofList, Template.clean_write, Template.write,
        Uri.cutScheme_append t.cleaned.scheme_plain, if_neg (by simp [hscheme])]
    obtain ⟨e, he⟩ := ofDsn_schemeless (hschemeless password query) settings
    obtain ⟨e', he'⟩ := ofDsn_schemeless (hschemeless password' query') settings
    rw [he, he']
    exact .error e e'

end Config

end SqlBuilder.Connection
