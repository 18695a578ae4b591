import SqlBuilder.Proofs.Connection.Parameters
import SqlBuilder.Proofs.Connection.Rereading

/-!
Data source names written from their components. Main statement: whatever texts the components are, a name in
which they are percent-encoded is read as these components, and a configuration that is made of it keeps each
parameter of its query in one place.
-/

namespace SqlBuilder.Connection

open Uri (located afterColon IsHost)

/-- A text without any character that is not unreserved. -/
def quoted (text : String) : String :=
  String.ofList (Uri.encode text.toList)

/-- What a name is written from. -/
structure Components where
  username : String
  password : String
  host : String
  port : Option Nat
  database : String
  schema : String
  query : List (String × String)
  username_given : username ≠ ""
  password_given : password ≠ ""
  host_plain : ∀ c ∈ host.toList, Text.isLetterOrDigit c = true ∨ c = '.' ∨ c = '-'
  host_lowered : Text.lower host = host
  port_range : ∀ n ∈ port, 1 ≤ n ∧ n ≤ 65535
  database_given : database ≠ ""
  schema_given : schema ≠ ""
  query_distinct : (query.map (·.1)).Nodup
  query_given : ∀ pair ∈ query, pair.2 ≠ ""

namespace Components

variable (c : Components)

def path : String :=
  "/" ++ quoted c.database ++ "/" ++ quoted c.schema

/-- The name with its components percent-encoded and its query form-encoded. -/
def text : String :=
  "snowflake" ++ "://" ++ quoted c.username ++ ":" ++ quoted c.password ++ "@" ++ c.host ++ Dsn.portText c.port ++
    c.path ++ "?" ++ Uri.encodeQuery c.query

/-- The name that is read; an empty host is none. -/
def dsn : Dsn where
  driver := "snowflake"
  username := some c.username
  password := some c.password
  host := Dsn.given? (some c.host)
  port := c.port
  database := some c.database
  schema := some c.schema
  path := c.path
  query := c.query

/-! ### Hosts -/

theorem mark_not_letterOrDigit : ∀ n ∈ Uri.cuttingMarks,
    Text.isLetterOrDigit (Char.ofNat n) = false ∧ Char.ofNat n ≠ '.' ∧ Char.ofNat n ≠ '-' := by
  decide +kernel

theorem not_mark_of_mem_host {d : Char} (h : d ∈ c.host.toList) : d.toNat ∉ Uri.cuttingMarks := by
  intro hmark
  obtain ⟨hletter, hdot, hdash⟩ := mark_not_letterOrDigit d.toNat hmark
  rw [Char.ofNat_toNat] at hletter hdot hdash
  obtain hplain | hplain | hplain := c.host_plain d h
  · rw [hletter] at hplain
    cases hplain
  · exact hdot hplain
  · exact hdash hplain

theorem not_mem_host {d : Char} (hmark : d.toNat ∈ Uri.cuttingMarks) : d ∉ c.host.toList :=
  fun hmem => c.not_mark_of_mem_host hmem hmark

theorem host_avoids {p : Char → Bool} (hp : ∀ d, p d = true → d.toNat ∈ Uri.cuttingMarks) :
    ∀ d ∈ c.host.toList, p d = false := by
  intro d hd
  by_contra hmark
  exact c.not_mark_of_mem_host hd (hp d (by simpa using hmark))

theorem isHost : IsHost c.host.toList where
  lowered := by
    have hlowered : Text.lowerChars c.host.toList = c.host.toList := by
      have h := congrArg String.toList c.host_lowered
      rwa [Text.lower, String.toList_ofList] at h
    rw [Uri.lowerHost, Text.cutAt_of_not_mem (c.not_mem_host (by decide))]
    simpa using hlowered
  plain := c.not_mem_host (by decide)
  inside := c.host_avoids Uri.endsAuthority_cutting
  unbroken := Uri.unbroken_eq_self_iff.mpr (c.host_avoids Uri.isLineBreakOrTab_cutting)
  undisguised := c.host_avoids fun d hd => List.mem_append_right _ (List.contains_iff_mem.mp hd)
  unbracketed := fun hhead => c.not_mem_host (by decide) (List.mem_of_mem_head? hhead)

/-! ### Parts -/

def scheme : List Char :=
  ['s', 'n', 'o', 'w', 'f', 'l', 'a', 'k', 'e']

theorem toList_snowflake : "snowflake".toList = scheme := rfl

def userChars : List Char :=
  Uri.encode c.username.toList

def passwordChars : List Char :=
  Uri.encode c.password.toList

def pathChars : List Char :=
  '/' :: (Uri.encode c.database.toList ++ '/' :: Uri.encode c.schema.toList)

/-- The parts of the name as they are written. -/
def parts : Uri.Parts where
  scheme := scheme
  authority := located (c.userChars ++ afterColon (some c.passwordChars)) c.host.toList (Dsn.shownPort c.port)
  path := c.pathChars
  query := (Uri.encodeQuery c.query).toList

theorem authority_eq : c.parts.authority =
    located (c.userChars ++ afterColon (some c.passwordChars)) c.host.toList (Dsn.shownPort c.port) := rfl

theorem toList_path : c.path.toList = c.pathChars := by
  simp [path, pathChars, quoted]

theorem not_mem_pathChars {d : Char} (hslash : d ≠ '/') (hreserved : Uri.isUnreserved d = false)
    (hpercent : d ≠ '%') : d ∉ c.pathChars := by
  have hencoded (text : String) : d ∉ Uri.encode text.toList :=
    (Uri.isEncoded_encode _).not_mem hreserved hpercent
  simp [pathChars, hslash, hencoded]

/-- The name without its password and its query. -/
def template : Uri.Template where
  scheme := scheme
  user := c.userChars
  location := c.host.toList ++ afterColon (Dsn.shownPort c.port)
  path := c.pathChars
  scheme_plain := by decide
  user_plain := (Uri.isEncoded_encode _).not_mem (by decide) (by decide)
  user_inside := (Uri.isEncoded_encode _).inside
  location_plain := by
    rw [List.mem_append, not_or]
    exact ⟨c.isHost.plain, Uri.not_mem_afterColon (Dsn.isDigit_shownPort c.port) (by decide) (by decide)⟩
  location_inside := by
    rw [List.forall_mem_append]
    exact ⟨c.isHost.inside, Uri.afterColon_avoids (Dsn.isDigit_shownPort c.port) rfl Uri.isDigit_of_endsAuthority⟩
  path_rooted := .inr ⟨_, rfl⟩
  path_plain := ⟨c.not_mem_pathChars (by decide) (by decide) (by decide),
    c.not_mem_pathChars (by decide) (by decide) (by decide)⟩

theorem text_eq : c.text =
    String.ofList (c.template.write c.passwordChars (some (Uri.encodeQuery c.query).toList)) := by
  have hslashes : "://".toList = [':', '/', '/'] := rfl
  unfold text
  rw [← String.toList_inj, String.toList_ofList]
  simp only [String.toList_append, toList_snowflake, hslashes, Dsn.portText_eq, toList_path, quoted,
    String.toList_ofList]
  simp [Uri.Template.write, Uri.Template.authority, template, userChars, passwordChars, Uri.queryText]

/-! ### Reading them -/

theorem unbroken_pathChars : Uri.unbroken c.pathChars = c.pathChars := by
  rw [pathChars, Uri.unbroken_cons (by decide), Uri.unbroken_append, Uri.unbroken_cons (by decide),
    (Uri.isEncoded_encode _).unbroken_eq, (Uri.isEncoded_encode _).unbroken_eq]

theorem unbroken_location : Uri.unbroken c.template.location = c.template.location := by
  refine Uri.unbroken_eq_self_iff.mpr (List.forall_mem_append.mpr ⟨?_, ?_⟩)
  · exact Uri.unbroken_eq_self_iff.mp c.isHost.unbroken
  · exact Uri.afterColon_avoids (Dsn.isDigit_shownPort c.port) rfl Uri.isDigit_of_isLineBreakOrTab

theorem cleaned_template : c.template.cleaned.authority c.passwordChars = c.parts.authority ∧
    c.template.cleaned.readPath = c.pathChars := by
  have huser : c.template.cleaned.user = c.userChars :=
    (Uri.Template.cleaned_user _).trans (Uri.isEncoded_encode c.username.toList).unbroken_eq
  have hlocation : c.template.cleaned.location = c.template.location :=
    (Uri.Template.cleaned_location _).trans c.unbroken_location
  have hpath : c.template.cleaned.path = c.pathChars :=
    (Uri.Template.cleaned_path _).trans c.unbroken_pathChars
  have hscheme : c.template.cleaned.scheme.map Char.toLower = scheme := rfl
  have hparameters : Uri.schemesWithParameters.contains (String.ofList scheme) = false := by decide
  constructor
  · rw [Uri.Template.authority, huser, hlocation, authority_eq]
    simp [located, afterColon, template]
  · rw [Uri.Template.readPath, hscheme, hparameters, hpath]
    rfl

theorem parts_text : Uri.parts c.text = do
    Uri.checkBrackets c.parts.authority
    Uri.checkAuthority c.parts.authority
    return c.parts := by
  have hquery : '#' ∉ (Uri.encodeQuery c.query).toList :=
    Uri.not_mem_encodeQuery (by decide) (by decide) (by decide) c.query
  have hpassword : Uri.IsEncoded c.passwordChars := Uri.isEncoded_encode _
  obtain ⟨hauthority, hpath⟩ := c.cleaned_template
  rw [text_eq, c.template.parts_write (by rfl) hpassword (by simpa using hquery), hauthority, hpath,
    Option.map_some, Option.getD_some, Uri.unbroken_encodeQuery]
  rfl

theorem userChars_plain {d : Char} (hreserved : Uri.isUnreserved d = false) (hpercent : d ≠ '%') :
    d ∉ c.userChars ++ afterColon (some c.passwordChars) ↔ d ≠ ':' := by
  simp [afterColon, (Uri.isEncoded_encode _).not_mem hreserved hpercent, userChars, passwordChars]

theorem authority_accepted : Uri.checkBrackets c.parts.authority = .ok () ∧
    Uri.checkAuthority c.parts.authority = .ok () := by
  have hdigits := Dsn.isDigit_shownPort c.port
  rw [authority_eq]
  constructor
  · refine (Uri.checkBrackets_located_iff _ c.isHost hdigits (c.not_mem_host (by decide))
      (c.not_mem_host (by decide))).mpr (.inl ⟨?_, ?_, c.not_mem_host (by decide)⟩)
    · exact (c.userChars_plain (by decide) (by decide)).mpr (by decide)
    · exact (c.userChars_plain (by decide) (by decide)).mpr (by decide)
  · refine (Uri.checkAuthority_located_iff _ c.isHost hdigits).mpr (List.forall_mem_append.mpr ⟨?_, ?_⟩)
    · exact (Uri.isEncoded_encode _).undisguised
    · exact List.forall_mem_cons.mpr ⟨by decide, (Uri.isEncoded_encode _).undisguised⟩

theorem component?_encode {text : String} (h : text ≠ "") :
    Dsn.component? (some (Uri.encode text.toList)) = some text := by
  have hgiven : text.toList ≠ [] := fun hempty => h (String.toList_eq_nil_iff.mp hempty)
  obtain ⟨d, ds, hcons⟩ := List.exists_cons_of_ne_nil (Uri.encode_ne_nil hgiven)
  have hread : Dsn.component? (some (Uri.encode text.toList)) =
      some (String.ofList (Uri.decode (Uri.encode text.toList))) := by
    rw [hcons]
    rfl
  rw [hread, Uri.decode_encode, String.ofList_toList]

theorem segments_pathChars : Dsn.segments c.pathChars = [c.database, c.schema] := by
  have hgiven {text : String} (h : text ≠ "") : Uri.encode text.toList ≠ [] :=
    Uri.encode_ne_nil fun hempty => h (String.toList_eq_nil_iff.mp hempty)
  have hplain (text : String) : '/' ∉ Uri.encode text.toList :=
    (Uri.isEncoded_encode _).not_mem (by decide) (by decide)
  have hnil : '/' ∉ ([] : List Char) := List.not_mem_nil
  have hsplit : Text.splitAt '/' c.pathChars =
      [[], Uri.encode c.database.toList, Uri.encode c.schema.toList] := by
    rw [pathChars, ← List.nil_append ('/' :: _), Text.splitAt_append hnil, Text.splitAt_append (hplain _),
      Text.splitAt_of_not_mem (hplain _)]
  simp [Dsn.segments, hsplit, hgiven c.database_given, hgiven c.schema_given, Uri.decode_encode]

/-- The name that is written is read as its components. -/
theorem parse_text : Dsn.parse c.text = .ok c.dsn := by
  obtain ⟨hbrackets, hcharacters⟩ := c.authority_accepted
  have hdigits := Dsn.isDigit_shownPort c.port
  have hopening : '[' ∉ c.host.toList := c.not_mem_host (by decide)
  have hcolon : ':' ∉ c.host.toList := c.not_mem_host (by decide)
  have hparts : Uri.parts c.text = .ok c.parts := by
    rw [parts_text, hbrackets, hcharacters]
    rfl
  have hport : Uri.port c.parts.authority = .ok c.port := by
    rw [authority_eq]
    refine (Dsn.port_located_iff _ c.isHost hopening hcolon fun n hn => (c.port_range n hn).2).mpr ?_
    intro hzero
    exact absurd (c.port_range 0 hzero).1 (by decide)
  have hinfo : Uri.userInfo c.parts.authority = (some c.userChars, some c.passwordChars) :=
    Uri.userInfo_located c.isHost hdigits ((Uri.isEncoded_encode _).not_mem (by decide) (by decide))
  have hhost : (Uri.host? c.parts.authority).map String.ofList = Dsn.given? (some c.host) := by
    rw [authority_eq, (Uri.host?_located_iff _ c.isHost hdigits hopening).mpr hcolon]
    by_cases hempty : c.host = ""
    · rw [hempty]
      rfl
    · rw [if_neg fun hnil => hempty (String.toList_eq_nil_iff.mp hnil), Option.map_some, String.ofList_toList]
      unfold Dsn.given?
      split
      · rename_i hnone
        exact absurd (Option.some.inj hnone) hempty
      · rfl
  refine Dsn.parse_eq_ok.mpr ⟨c.parts, c.port, hparts, hport, ?_⟩
  have hpath : Dsn.segments c.parts.path = [c.database, c.schema] := c.segments_pathChars
  have hquery : Uri.queryPairs c.parts.query = c.query :=
    Uri.queryPairs_encodeQuery c.query_distinct c.query_given
  rw [Dsn.ofParts, hinfo, hhost, hpath, hquery, userChars, passwordChars, component?_encode c.username_given,
    component?_encode c.password_given]
  have hdriver : String.ofList c.parts.scheme = "snowflake" := rfl
  have hwritten : String.ofList c.parts.path = c.path := by
    rw [← c.path.ofList_toList, toList_path]
    rfl
  rw [hdriver, hwritten]
  rfl

/-- Whatever the components are, they are read back from the name that is written, and a configuration that is
made of it keeps each pair of the query in one place. -/
theorem text_read : Dsn.parse c.text = .ok c.dsn ∧
    ∀ config, Config.ofDsn c.text [] = .ok config → ∃ options, config.Keeps c.dsn options :=
  ⟨c.parse_text, fun _ hconfig => Config.ofDsn_keeps c.parse_text hconfig⟩

/-- Components with marks of a URI in them. -/
def marked : Components where
  username := "b@b:/?#% é"
  password := "p:w/d@#?%41 +"
  host := "xy12.eu-1"
  port := some 443
  database := "my/db"
  schema := "a b?"
  query := [("role", "an&lyst=1"), ("autocommit", "on"), ("network_timeout", "30"), ("käse", "+%")]
  username_given := by decide
  password_given := by decide
  host_plain := List.forall_iff_forall_mem.mp (by decide +kernel)
  host_lowered := by decide +kernel
  port_range := by decide
  database_given := by decide
  schema_given := by decide
  query_distinct := by decide
  query_given := by decide

theorem marked_read : Dsn.parse marked.text = .ok marked.dsn ∧
    ∃ config options, Config.ofDsn marked.text [] = .ok config ∧ config.Keeps marked.dsn options ∧
      config.role = .text "an&lyst=1" ∧ config.autocommit = .bool true ∧
      config.options = .dict [(.text "network_timeout", .int 30), (.text "käse", .text "+%")] := by
  obtain ⟨hparse, hkeeps⟩ := marked.text_read
  obtain ⟨config, hconfig, hrole, hautocommit, hoptions⟩ : ∃ config,
    Config.ofParsed marked.dsn [] = .ok config ∧ config.role = .text "an&lyst=1" ∧
      config.autocommit = .bool true ∧
      config.options = .dict [(.text "network_timeout", .int 30), (.text "käse", .text "+%")] :=
    ⟨_, rfl, rfl, rfl, rfl⟩
  have hread : Config.ofDsn marked.text [] = .ok config :=
    Config.ofDsn_eq_ok.mpr ⟨rfl, marked.dsn, hparse, hconfig⟩
  obtain ⟨options, hkept⟩ := hkeeps config hread
  exact ⟨hparse, config, options, hread, hkept, hrole, hautocommit, hoptions⟩

end Components

end SqlBuilder.Connection
