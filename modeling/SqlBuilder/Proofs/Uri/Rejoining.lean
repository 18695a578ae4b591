import SqlBuilder.Proofs.Uri.Form
import SqlBuilder.Proofs.Uri.Host

/-!
URIs put together from parts that were read. Main statements: they are read as the same parts, unless the
authority is refused, and a text in front of the authority that is not shortened holds no mark.
-/

namespace SqlBuilder.Uri

/-! ### Joined parts -/

variable {scheme rest : List Char}

theorem clean_joined (hscheme : isScheme scheme = true) (rest : List Char) :
    clean (scheme ++ ':' :: '/' :: '/' :: rest) = scheme ++ ':' :: '/' :: '/' :: unbroken rest := by
  have hchars : ∀ n < 128, isSchemeChar (Char.ofNat n) = true →
      isControlOrSpace (Char.ofNat n) = false ∧ isLineBreakOrTab (Char.ofNat n) = false := by
    decide +kernel
  have hplain (c : Char) (hc : c ∈ scheme) : isControlOrSpace c = false ∧ isLineBreakOrTab c = false := by
    have hchar := isScheme_chars hscheme c hc
    have htable := hchars c.toNat (isSchemeChar_ascii hchar)
    rw [Char.ofNat_toNat] at htable
    exact htable hchar
  have hfront : scheme.dropWhile isControlOrSpace = scheme := by
    cases scheme with
    | nil => rfl
    | cons c scheme => exact List.dropWhile_cons_of_neg (by simp [(hplain c (List.mem_cons_self ..)).1])
  have hscheme_unbroken : unbroken scheme = scheme :=
    unbroken_eq_self_iff.mpr fun c hc => (hplain c hc).2
  rw [clean_append (by decide), hfront, hscheme_unbroken, unbroken_cons (by decide),
    unbroken_cons (by decide), unbroken_cons (by decide)]

theorem cutScheme_joined (hscheme : isScheme scheme = true) (rest : List Char) :
    cutScheme (clean (String.ofList (scheme ++ ':' :: '/' :: '/' :: rest)).toList) =
      (scheme.map Char.toLower, '/' :: '/' :: unbroken rest) := by
  have hcolon : ':' ∉ scheme := fun hmem => by
    have hchar := isScheme_chars hscheme ':' hmem
    revert hchar
    decide
  rw [String.toList_ofList, clean_joined hscheme, cutScheme_append hcolon, if_pos hscheme]

theorem unbroken_encodeQuery (query : List (String × String)) :
    unbroken (encodeQuery query).toList = (encodeQuery query).toList := by
  refine unbroken_eq_self_iff.mpr fun c hc => ?_
  by_contra hbreak
  simp only [isLineBreakOrTab, Bool.not_eq_false, Bool.or_eq_true, beq_iff_eq] at hbreak
  obtain (rfl | rfl) | rfl := hbreak <;>
    exact not_mem_encodeQuery (by decide) (by decide) (by decide) _ hc

theorem unbroken_unbroken (cs : List Char) : unbroken (unbroken cs) = unbroken cs := by
  unfold unbroken
  rw [List.filter_filter]
  simp only [Bool.and_self]

/-- Line breaks and tabs do not count. -/
theorem parts_unbroken (hscheme : isScheme scheme = true) {rest rest' : List Char}
    (h : unbroken rest = unbroken rest') :
    Uri.parts (String.ofList (scheme ++ ':' :: '/' :: '/' :: rest)) =
      Uri.parts (String.ofList (scheme ++ ':' :: '/' :: '/' :: rest')) := by
  unfold Uri.parts
  rw [cutScheme_joined hscheme, cutScheme_joined hscheme, h]

/-- The authority is what stands in front of the first mark that ends it. -/
theorem authority_of_joined (hscheme : isScheme scheme = true) {parts : Parts}
    (h : Uri.parts (String.ofList (scheme ++ ':' :: '/' :: '/' :: rest)) = .ok parts) :
    parts.authority = (unbroken rest).takeWhile (!endsAuthority ·) := by
  obtain ⟨after, hafter, -, hauthority, -⟩ := parts_eq_ok h
  rw [cutScheme_joined hscheme] at hafter
  rw [hauthority, hafter]
  rfl

/-- Without a scheme there is no authority. -/
theorem authority_of_schemeless {parts : Parts} (h : Uri.parts (String.ofList (':' :: rest)) = .ok parts) :
    parts.authority = [] := by
  obtain ⟨after, hafter, -, hauthority, -⟩ := parts_eq_ok h
  have hcut : cutScheme (clean (String.ofList (':' :: rest)).toList) = ([], ':' :: unbroken rest) := by
    have hclean := clean_append (c := ':') (by decide) [] rest
    rw [List.nil_append, unbroken_cons (by decide)] at hclean
    have hcolon : ':' ∉ ([] : List Char) := List.not_mem_nil
    rw [String.toList_ofList, hclean]
    exact cutScheme_append hcolon (unbroken rest)
  rw [hcut] at hafter
  rw [hauthority, hafter]
  rfl

/-- The parts of a URI put together. -/
def Parts.joined (parts : Parts) : List Char :=
  parts.scheme ++ ':' :: '/' :: '/' ::
    (parts.authority ++ (parts.path ++ if parts.query = [] then [] else '?' :: parts.query))

/-- Parts that hold none of the marks at which they are cut. -/
structure Parts.Joinable (parts : Parts) : Prop where
  scheme : isScheme parts.scheme = true ∧ parts.scheme.map Char.toLower = parts.scheme
  inside : ∀ c ∈ parts.authority, endsAuthority c = false
  unbroken : unbroken parts.authority = parts.authority ∧ unbroken parts.path = parts.path ∧
    unbroken parts.query = parts.query
  path_plain : '?' ∉ parts.path ∧ '#' ∉ parts.path
  path_rooted : parts.path = [] ∨ ∃ rest, parts.path = '/' :: rest
  path_whole : pathUnder parts.scheme parts.path = parts.path
  query_plain : '#' ∉ parts.query

variable {parts : Parts}

/-- Parts that are put together are read as they are, unless the authority is refused. -/
theorem parts_joined (h : parts.Joinable) : Uri.parts (String.ofList parts.joined) = do
    checkBrackets parts.authority
    checkAuthority parts.authority
    return parts := by
  obtain ⟨scheme, authority, path, query⟩ := parts
  obtain ⟨tail, htail⟩ : ∃ tail, tail = path ++ if query = [] then [] else '?' :: query := ⟨_, rfl⟩
  have hunbroken : unbroken (authority ++ tail) = authority ++ tail := by
    have hquery : unbroken (if query = [] then [] else '?' :: query) =
        if query = [] then [] else '?' :: query := by
      split
      · rfl
      · rw [unbroken_cons (by decide), h.unbroken.2.2]
    rw [htail, unbroken_append, unbroken_append, h.unbroken.1, h.unbroken.2.1, hquery]
  have hrooted : tail = [] ∨ ∃ c cs, tail = c :: cs ∧ endsAuthority c = true := by
    rw [htail]
    obtain hnone | ⟨rest, hrest⟩ := h.path_rooted
    · obtain rfl : path = [] := hnone
      split
      · exact .inl rfl
      · exact .inr ⟨'?', query, rfl, rfl⟩
    · obtain rfl : path = '/' :: rest := hrest
      exact .inr ⟨'/', _, rfl, rfl⟩
  have hfragment : Text.cutAt '#' tail = (tail, none) := by
    refine Text.cutAt_of_not_mem ?_
    rw [htail, List.mem_append, not_or]
    refine ⟨h.path_plain.2, ?_⟩
    split
    · exact List.not_mem_nil
    · exact List.not_mem_cons_of_ne_of_not_mem (by decide) h.query_plain
  have hquery : (Text.cutAt '?' tail).1 = path ∧ (Text.cutAt '?' tail).2.getD [] = query := by
    rw [htail]
    split
    · rename_i hnone
      rw [List.append_nil, Text.cutAt_of_not_mem h.path_plain.1]
      exact ⟨rfl, hnone.symm⟩
    · rw [Text.cutAt_append h.path_plain.1]
      exact ⟨rfl, rfl⟩
  have hwhole : pathUnder scheme path = path := h.path_whole
  unfold Uri.parts
  rw [Parts.joined, ← htail, cutScheme_joined h.scheme.1, h.scheme.2, hunbroken]
  simp only [cutAuthority_append h.inside hrooted, hfragment, hquery.1, hquery.2]
  rw [← pathUnder, hwhole]

/-! ### The user in front -/

theorem userInfo_prefix {authority raw : List Char} (h : (userInfo authority).1 = some raw) :
    raw <+: authority ∧ ':' ∉ raw := by
  unfold userInfo at h
  cases hcut : Text.cutAtLast '@' authority with
  | mk info location =>
    rw [hcut] at h
    cases info with
    | none => cases h
    | some info =>
      obtain rfl : (Text.cutAt ':' info).1 = raw := Option.some.inj h
      rw [Text.cutAt_fst, (Text.cutAtLast_eq_some hcut).1]
      exact ⟨(List.takeWhile_prefix _).trans (List.prefix_append info _), Text.not_mem_takeWhile ':' info⟩

/-- A text at the head of an authority that is read as no shorter a user holds no mark. -/
theorem marks_of_userInfo {user tail raw : List Char}
    (h : (userInfo ((unbroken (user ++ tail)).takeWhile (!endsAuthority ·))).1 = some raw)
    (hlength : user.length ≤ raw.length) : ∀ c ∈ unbroken user, c ≠ ':' ∧ endsAuthority c = false := by
  obtain ⟨hread, hcolon⟩ := userInfo_prefix h
  -- Both begin the same text, so what is no longer is the beginning of the other.
  have hbegins : unbroken user <+: raw := by
    have hwhole : unbroken user <+: unbroken (user ++ tail) := by
      rw [unbroken_append]
      exact List.prefix_append _ _
    exact List.prefix_of_prefix_length_le hwhole (hread.trans (List.takeWhile_prefix _))
      ((List.length_filter_le _ user).trans hlength)
  intro c hc
  have hraw : c ∈ raw := hbegins.subset hc
  refine ⟨fun hsame => hcolon (hsame ▸ hraw), ?_⟩
  simpa using List.mem_takeWhile_imp (hread.subset hraw)

theorem userInfo_located {user host : List Char} {password port : Option (List Char)} (hhost : IsHost host)
    (hport : ∀ digits ∈ port, ∀ d ∈ digits, d.isDigit = true) (hcolon : ':' ∉ user) :
    userInfo (located (user ++ afterColon password) host port) = (some user, password) := by
  have hplain : '@' ∉ host ++ afterColon port := by
    rw [List.mem_append, not_or]
    exact ⟨hhost.plain, not_mem_afterColon hport (by decide) (by decide)⟩
  rw [userInfo, located, Text.cutAtLast_append _ hplain]
  simp only [cutAt_afterColon hcolon]

end SqlBuilder.Uri
