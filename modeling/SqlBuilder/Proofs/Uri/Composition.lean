import SqlBuilder.Proofs.Recorded.Relation
import SqlBuilder.Proofs.Text.Cutting
import SqlBuilder.Uri.Parts

/-!
URIs put together from their parts, with a place for the password. Main statement: one that is written so
is read as the parts that it was written from, once tabs and line breaks are left out of them.
-/

namespace SqlBuilder.Uri

/-- A text without tabs and line breaks. -/
def unbroken (cs : List Char) : List Char :=
  cs.filter (!isLineBreakOrTab ·)

theorem unbroken_append (cs ds : List Char) : unbroken (cs ++ ds) = unbroken cs ++ unbroken ds :=
  List.filter_append ..

theorem unbroken_cons {c : Char} (h : isLineBreakOrTab c = false) (cs : List Char) :
    unbroken (c :: cs) = c :: unbroken cs :=
  List.filter_cons_of_pos (by simp [h])

theorem not_mem_unbroken {c : Char} {cs : List Char} (h : c ∉ cs) : c ∉ unbroken cs :=
  fun hmem => h ((List.mem_filter.mp hmem).1)

theorem clean_append {c : Char} (h : isControlOrSpace c = false) (cs ds : List Char) :
    clean (cs ++ c :: ds) = unbroken (cs.dropWhile isControlOrSpace) ++ unbroken (c :: ds) := by
  have hdrop : (cs ++ c :: ds).dropWhile isControlOrSpace = cs.dropWhile isControlOrSpace ++ c :: ds := by
    rw [List.dropWhile_append]
    split
    · rename_i hempty
      rw [List.isEmpty_iff.mp hempty, List.dropWhile_cons_of_neg (by simp [h]), List.nil_append]
    · rfl
  rw [clean, hdrop, ← unbroken_append]
  rfl

/-! ### Percent-encoded text -/

theorem isAlphanum_ascii {c : Char} (h : c.isAlphanum = true) : c.toNat < 0x80 := by
  have hbelow (last : Char) (hlast : last.toNat < 0x80) (hle : c.val ≤ last.val) : c.toNat < 0x80 :=
    Nat.lt_of_le_of_lt (UInt32.le_iff_toNat_le.mp hle) hlast
  obtain hletter | hdigit := (Bool.or_eq_true _ _).mp h
  · obtain hupper | hlower := (Bool.or_eq_true _ _).mp hletter
    · exact hbelow 'Z' (by decide) (of_decide_eq_true hupper).2
    · exact hbelow 'z' (by decide) (of_decide_eq_true ((Bool.and_eq_true _ _).mp hlower).2)
  · exact hbelow '9' (by decide) (of_decide_eq_true ((Bool.and_eq_true _ _).mp hdigit).2)

/-- All characters are unreserved or belong to escapes. -/
def IsEncoded (cs : List Char) : Prop :=
  ∀ c ∈ cs, isUnreserved c = true ∨ c = '%'

variable {cs : List Char} {c : Char}

theorem IsEncoded.not_mem (h : IsEncoded cs) (hreserved : isUnreserved c = false) (hpercent : c ≠ '%') :
    c ∉ cs := by
  intro hc
  obtain hunreserved | rfl := h c hc
  · simp [hreserved] at hunreserved
  · exact hpercent rfl

/-- Characters that would have to be escaped do not occur. -/
theorem IsEncoded.avoids (h : IsEncoded cs) {p : Char → Bool}
    (hp : ∀ c, p c = true → isUnreserved c = false ∧ c ≠ '%') : ∀ c ∈ cs, p c = false := by
  intro c hc
  by_contra hpc
  obtain ⟨hreserved, hpercent⟩ := hp c (by simpa using hpc)
  exact h.not_mem hreserved hpercent hc

theorem IsEncoded.unbroken_eq (h : IsEncoded cs) : unbroken cs = cs := by
  have hunbroken : ∀ c ∈ cs, isLineBreakOrTab c = false := by
    refine h.avoids fun c hc => ?_
    simp only [isLineBreakOrTab, Bool.or_eq_true, beq_iff_eq] at hc
    obtain (rfl | rfl) | rfl := hc <;> decide
  exact List.filter_eq_self.mpr fun c hc => by rw [hunbroken c hc]; rfl

theorem IsEncoded.inside (h : IsEncoded cs) : ∀ c ∈ cs, endsAuthority c = false := by
  refine h.avoids fun c hc => ?_
  simp only [endsAuthority, Bool.or_eq_true, beq_iff_eq] at hc
  obtain (rfl | rfl) | rfl := hc <;> decide

theorem disguisedSeparators_reserved :
    ∀ n ∈ disguisedSeparators, isUnreserved (Char.ofNat n) = false ∧ Char.ofNat n ≠ '%' := by
  decide

theorem IsEncoded.undisguised (h : IsEncoded cs) :
    ∀ c ∈ cs, disguisedSeparators.contains c.toNat = false := by
  refine h.avoids fun c hc => ?_
  have hreserved := disguisedSeparators_reserved c.toNat (by simpa using hc)
  rwa [Char.ofNat_toNat] at hreserved

/-! ### Where a URI is cut -/

/-- The text before the first colon is a scheme. -/
def isScheme : List Char → Bool
  | [] => false
  | c :: scheme => c.isAlpha && scheme.all isSchemeChar

theorem cutScheme_append {scheme : List Char} (h : ':' ∉ scheme) (rest : List Char) :
    cutScheme (scheme ++ ':' :: rest) =
      if isScheme scheme then (scheme.map Char.toLower, rest) else ([], scheme ++ ':' :: rest) := by
  unfold cutScheme
  rw [Text.cutAt_append h]
  cases scheme with
  | nil => rfl
  | cons c scheme => rfl

/-- What follows the authority is empty, or begins where the authority ends. -/
theorem cutAuthority_append {authority rest : List Char} (hinside : ∀ c ∈ authority, endsAuthority c = false)
    (hrest : rest = [] ∨ ∃ c cs, rest = c :: cs ∧ endsAuthority c = true) :
    cutAuthority ('/' :: '/' :: (authority ++ rest)) = (authority, rest) := by
  have htake : rest.takeWhile (!endsAuthority ·) = [] := by
    obtain rfl | ⟨c, cs, rfl, hc⟩ := hrest
    · rfl
    · exact List.takeWhile_cons_of_neg (by simp [hc])
  have hdrop : rest.dropWhile (!endsAuthority ·) = rest := by
    obtain rfl | ⟨c, cs, rfl, hc⟩ := hrest
    · rfl
    · exact List.dropWhile_cons_of_neg (by simp [hc])
  have hall : ∀ c ∈ authority, (!endsAuthority c) = true := fun c hc => by simp [hinside c hc]
  rw [cutAuthority, List.takeWhile_append_of_pos hall, List.dropWhile_append_of_pos hall, htake, hdrop,
    List.append_nil]

theorem scheme_of_parts {uri : String} {parts : Parts} (h : Uri.parts uri = .ok parts) :
    parts.scheme = (cutScheme (clean uri.toList)).1 := by
  unfold Uri.parts at h
  obtain ⟨-, -, h⟩ := Recorded.except_bind_eq_ok.mp h
  obtain ⟨-, -, h⟩ := Recorded.except_bind_eq_ok.mp h
  exact (congrArg Parts.scheme (Except.ok.inj h)).symm

/-! ### Templates -/

/-- The parts of a URI except for the password and the query. -/
structure Template where
  scheme : List Char
  user : List Char
  /-- Host and port. -/
  location : List Char
  path : List Char
  scheme_plain : ':' ∉ scheme
  user_plain : ':' ∉ user
  user_inside : ∀ c ∈ user, endsAuthority c = false
  location_plain : '@' ∉ location
  location_inside : ∀ c ∈ location, endsAuthority c = false
  path_rooted : path = [] ∨ ∃ rest, path = '/' :: rest
  path_plain : '?' ∉ path ∧ '#' ∉ path

def queryText : Option (List Char) → List Char
  | none => []
  | some query => '?' :: query

namespace Template

def authority (t : Template) (password : List Char) : List Char :=
  t.user ++ ':' :: (password ++ '@' :: t.location)

def write (t : Template) (password : List Char) (query : Option (List Char)) : List Char :=
  t.scheme ++ ':' :: '/' :: '/' :: (t.authority password ++ (t.path ++ queryText query))

/-- The template of what is left of a URI when it is cleaned. -/
def cleaned (t : Template) : Template where
  scheme := unbroken (t.scheme.dropWhile isControlOrSpace)
  user := unbroken t.user
  location := unbroken t.location
  path := unbroken t.path
  scheme_plain := not_mem_unbroken fun h => t.scheme_plain ((List.dropWhile_sublist _).mem h)
  user_plain := not_mem_unbroken t.user_plain
  user_inside c hc := t.user_inside c (List.mem_filter.mp hc).1
  location_plain := not_mem_unbroken t.location_plain
  location_inside c hc := t.location_inside c (List.mem_filter.mp hc).1
  path_rooted := by
    obtain hnone | ⟨rest, hrooted⟩ := t.path_rooted
    · exact .inl (by rw [hnone]; rfl)
    · exact .inr ⟨unbroken rest, by rw [hrooted, unbroken_cons (by decide)]⟩
  path_plain := ⟨not_mem_unbroken t.path_plain.1, not_mem_unbroken t.path_plain.2⟩

variable (t : Template) {password : List Char} {query : Option (List Char)}

@[simp] theorem cleaned_user : t.cleaned.user = unbroken t.user := rfl

@[simp] theorem cleaned_location : t.cleaned.location = unbroken t.location := rfl

@[simp] theorem cleaned_path : t.cleaned.path = unbroken t.path := rfl

theorem unbroken_queryText (query : Option (List Char)) :
    unbroken (queryText query) = queryText (query.map unbroken) := by
  cases query with
  | none => rfl
  | some query => exact unbroken_cons (by decide) query

theorem clean_write (password : List Char) (query : Option (List Char)) :
    clean (t.write password query) = t.cleaned.write (unbroken password) (query.map unbroken) := by
  rw [write, clean_append (by decide)]
  simp only [unbroken_cons (c := ':') (by decide), unbroken_cons (c := '/') (by decide),
    unbroken_cons (c := '@') (by decide), authority, unbroken_append, unbroken_queryText]
  rfl

/-! ### Reading it -/

/-- The path as it is read. -/
def readPath (t : Template) : List Char :=
  if schemesWithParameters.contains (String.ofList (t.scheme.map Char.toLower)) then dropParameters t.path
  else t.path

theorem path_queryText_rooted :
    t.path ++ queryText query = [] ∨ ∃ c cs, t.path ++ queryText query = c :: cs ∧ endsAuthority c = true := by
  obtain hnone | ⟨rest, hrooted⟩ := t.path_rooted
  · cases query with
    | none => exact .inl (by rw [hnone]; rfl)
    | some query => exact .inr ⟨'?', query, by rw [hnone]; rfl, rfl⟩
  · exact .inr ⟨'/', rest ++ queryText query, by rw [hrooted]; rfl, rfl⟩

theorem not_mem_path_queryText (hquery : ∀ text ∈ query, '#' ∉ text) : '#' ∉ t.path ++ queryText query := by
  rw [List.mem_append, not_or]
  refine ⟨t.path_plain.2, ?_⟩
  cases query with
  | none => simp [queryText]
  | some query => simp [queryText, hquery query rfl]

theorem cutAt_path_queryText : Text.cutAt '?' (t.path ++ queryText query) = (t.path, query) := by
  cases query with
  | none =>
    rw [queryText, List.append_nil]
    exact Text.cutAt_of_not_mem t.path_plain.1
  | some query => exact Text.cutAt_append t.path_plain.1 query

theorem inside_authority (hpassword : ∀ c ∈ password, endsAuthority c = false) :
    ∀ c ∈ t.authority password, endsAuthority c = false := by
  rw [authority, List.forall_mem_append, List.forall_mem_cons, List.forall_mem_append, List.forall_mem_cons]
  exact ⟨t.user_inside, rfl, hpassword, rfl, t.location_inside⟩

/-- What is written with an encoded password and a query is read as its parts, unless its authority is
refused. -/
theorem parts_write (hscheme : isScheme t.cleaned.scheme = true) (hpassword : IsEncoded password)
    (hquery : ∀ text ∈ query, '#' ∉ text) :
    Uri.parts (String.ofList (t.write password query)) = do
      checkBrackets (t.cleaned.authority password)
      checkAuthority (t.cleaned.authority password)
      return {
        scheme := t.cleaned.scheme.map Char.toLower
        authority := t.cleaned.authority password
        path := t.cleaned.readPath
        query := (query.map unbroken).getD [] } := by
  have hclean : clean (String.ofList (t.write password query)).toList =
      t.cleaned.write password (query.map unbroken) := by
    rw [String.toList_ofList, clean_write, hpassword.unbroken_eq]
  have hcut : cutScheme (t.cleaned.write password (query.map unbroken)) =
      (t.cleaned.scheme.map Char.toLower, '/' :: '/' ::
        (t.cleaned.authority password ++ (t.cleaned.path ++ queryText (query.map unbroken)))) := by
    rw [write, cutScheme_append t.cleaned.scheme_plain, if_pos hscheme]
  have hplain : ∀ text ∈ query.map unbroken, '#' ∉ text := by
    simpa using fun text htext => not_mem_unbroken (hquery text htext)
  unfold Uri.parts
  rw [hclean, hcut]
  simp only [cutAuthority_append (t.cleaned.inside_authority hpassword.inside) t.cleaned.path_queryText_rooted]
  rw [Text.cutAt_of_not_mem (t.cleaned.not_mem_path_queryText hplain)]
  simp only [cutAt_path_queryText]
  rfl

/-! ### The authority -/

theorem cutAtLast_authority (password : List Char) :
    Text.cutAtLast '@' (t.authority password) = (some (t.user ++ ':' :: password), t.location) := by
  have hsplit : t.authority password = (t.user ++ ':' :: password) ++ '@' :: t.location := by
    simp [authority]
  rw [hsplit, Text.cutAtLast_append _ t.location_plain]

theorem userInfo_authority (password : List Char) :
    userInfo (t.authority password) = (some t.user, some password) := by
  simp [userInfo, cutAtLast_authority, Text.cutAt_append t.user_plain]

theorem hostAndPort_authority (password : List Char) : hostAndPort (t.authority password) = t.location := by
  rw [hostAndPort, cutAtLast_authority]

theorem hostPort_authority (password password' : List Char) :
    hostPort (t.authority password) = hostPort (t.authority password') := by
  simp only [hostPort, hostAndPort_authority]

theorem host?_authority (password password' : List Char) :
    host? (t.authority password) = host? (t.authority password') := by
  rw [host?, host?, t.hostPort_authority password password']

theorem port_authority (password password' : List Char) :
    port (t.authority password) = port (t.authority password') := by
  rw [port, port, t.hostPort_authority password password']

theorem contains_authority {c : Char} (hcolon : c ≠ ':') (hat : c ≠ '@') (hpassword : c ∉ password) :
    (t.authority password).contains c = (t.user.contains c || t.location.contains c) := by
  simp [authority, hcolon, hat, hpassword]

/-- Brackets are looked for outside the password if there are none in it. -/
theorem checkBrackets_authority {password' : List Char} (h : '[' ∉ password ∧ ']' ∉ password)
    (h' : '[' ∉ password' ∧ ']' ∉ password') :
    checkBrackets (t.authority password) = checkBrackets (t.authority password') := by
  unfold checkBrackets
  simp only [contains_authority t (c := '[') (by decide) (by decide) h.1,
    contains_authority t (c := ']') (by decide) (by decide) h.2,
    contains_authority t (c := '[') (by decide) (by decide) h'.1,
    contains_authority t (c := ']') (by decide) (by decide) h'.2, hostAndPort_authority]

theorem checkAuthority_authority {password' : List Char}
    (h : ∀ c ∈ password, disguisedSeparators.contains c.toNat = false)
    (h' : ∀ c ∈ password', disguisedSeparators.contains c.toNat = false) :
    Recorded.Agree (fun _ _ => True) (checkAuthority (t.authority password))
      (checkAuthority (t.authority password')) := by
  have hany : (t.authority password).any (fun c => disguisedSeparators.contains c.toNat) =
      (t.authority password').any fun c => disguisedSeparators.contains c.toNat := by
    have hnone : password.any (fun c => disguisedSeparators.contains c.toNat) = false := by
      simpa using h
    have hnone' : password'.any (fun c => disguisedSeparators.contains c.toNat) = false := by
      simpa using h'
    simp only [authority, List.any_append, List.any_cons, hnone, hnone']
  unfold checkAuthority
  rw [hany]
  split
  · exact .error _ _
  · exact .ok trivial

end Template

end SqlBuilder.Uri
