import SqlBuilder.Proofs.Text.Lowering
import SqlBuilder.Proofs.Uri.Composition

/-!
What is known of a URI that was accepted. Main statements: its parts hold none of the characters at which they
were cut, a path is rooted where there is an authority, and a host holds no marks and is in lower case.
-/

namespace SqlBuilder.Uri

/-! ### Schemes -/

theorem isSchemeChar_ascii {c : Char} (h : isSchemeChar c = true) : c.toNat < 128 := by
  simp only [isSchemeChar, Bool.or_eq_true, beq_iff_eq] at h
  obtain ((halphanum | rfl) | rfl) | rfl := h
  · exact isAlphanum_ascii halphanum
  all_goals decide

theorem toLower_schemeChar : ∀ n < 128, isSchemeChar (Char.ofNat n) = true →
    isSchemeChar (Char.ofNat n).toLower = true ∧
      (Char.ofNat n).toLower.toLower = (Char.ofNat n).toLower ∧
      (Char.ofNat n).toLower.isAlpha = (Char.ofNat n).isAlpha := by
  decide +kernel

theorem isSchemeChar_of_isAlpha {c : Char} (h : c.isAlpha = true) : isSchemeChar c = true := by
  simp [isSchemeChar, Char.isAlphanum, h]

theorem isScheme_chars {scheme : List Char} (h : isScheme scheme = true) :
    ∀ c ∈ scheme, isSchemeChar c = true := by
  cases scheme with
  | nil => simp
  | cons c scheme =>
    simp only [isScheme, Bool.and_eq_true, List.all_eq_true] at h
    exact List.forall_mem_cons.mpr ⟨isSchemeChar_of_isAlpha h.1, h.2⟩

/-- A scheme in lower case is a scheme, and in lower case. -/
theorem isScheme_lowered {scheme : List Char} (h : isScheme scheme = true) :
    isScheme (scheme.map Char.toLower) = true ∧
      (scheme.map Char.toLower).map Char.toLower = scheme.map Char.toLower := by
  have hchar (c : Char) (hc : c ∈ scheme) := by
    have hscheme := isScheme_chars h c hc
    have htable := toLower_schemeChar c.toNat (isSchemeChar_ascii hscheme)
    rw [Char.ofNat_toNat] at htable
    exact htable hscheme
  constructor
  · cases scheme with
    | nil => exact h
    | cons c scheme =>
      rw [List.forall_mem_cons] at hchar
      simp only [isScheme, Bool.and_eq_true] at h
      simp only [List.map_cons, isScheme, Bool.and_eq_true, hchar.1.2.2, h.1, true_and, List.all_map,
        List.all_eq_true]
      exact fun d hd => (hchar.2 d hd).1
  · rw [List.map_map]
    exact List.map_congr_left fun c hc => (hchar c hc).2.1

theorem cutScheme_fst (cs : List Char) :
    (cutScheme cs).1 = [] ∨ ∃ scheme, isScheme scheme = true ∧ (cutScheme cs).1 = scheme.map Char.toLower := by
  unfold cutScheme
  split
  · rename_i c scheme rest _
    split
    · rename_i hscheme
      exact .inr ⟨c :: scheme, hscheme, rfl⟩
    · exact .inl rfl
  · exact .inl rfl

theorem cutScheme_snd_sublist (cs : List Char) : (cutScheme cs).2.Sublist cs := by
  unfold cutScheme
  split
  · rename_i c scheme rest hcut
    split
    · rw [(Text.cutAt_eq_some hcut).1]
      exact (List.sublist_cons_self ':' rest).trans (List.sublist_append_right _ _)
    · exact List.Sublist.refl cs
  · exact List.Sublist.refl cs

/-! ### Authorities -/

theorem cutAuthority_sublist (cs : List Char) :
    (cutAuthority cs).1.Sublist cs ∧ (cutAuthority cs).2.Sublist cs := by
  unfold cutAuthority
  split
  · rename_i rest
    have hrest : rest.Sublist ('/' :: '/' :: rest) := (List.sublist_cons_self _ _).trans (List.sublist_cons_self _ _)
    exact ⟨(List.takeWhile_sublist _).trans hrest, (List.dropWhile_sublist _).trans hrest⟩
  · exact ⟨List.nil_sublist _, List.Sublist.refl _⟩

theorem cutAuthority_inside (cs : List Char) : ∀ c ∈ (cutAuthority cs).1, endsAuthority c = false := by
  unfold cutAuthority
  split
  · intro c hc
    simpa using List.mem_takeWhile_imp hc
  · simp

/-- What follows an authority begins where the authority ends. -/
theorem cutAuthority_ends (cs : List Char) : (cutAuthority cs).1 = [] ∨ (cutAuthority cs).2 = [] ∨
    ∃ c rest, (cutAuthority cs).2 = c :: rest ∧ endsAuthority c = true := by
  unfold cutAuthority
  split
  · rename_i rest
    right
    cases hdrop : rest.dropWhile (!endsAuthority ·) with
    | nil => exact .inl rfl
    | cons c after =>
      have hhead := List.head?_dropWhile_not (!endsAuthority ·) rest
      rw [hdrop] at hhead
      exact .inr ⟨c, after, rfl, by simpa using hhead⟩
  · exact .inl rfl

/-! ### Paths -/

variable {path : List Char}

/-- Parameters are dropped once. -/
theorem dropParameters_dropParameters (path : List Char) :
    dropParameters (dropParameters path) = dropParameters path := by
  have htwice (last : List Char) : (Text.cutAt ';' (Text.cutAt ';' last).1).1 = (Text.cutAt ';' last).1 := by
    rw [Text.cutAt_fst, Text.cutAt_fst, Text.takeWhile_ne_separator (Text.not_mem_takeWhile ';' last)]
  have hrooted (last : List Char) (h : '/' ∉ last) : '/' ∉ (Text.cutAt ';' last).1 := by
    rw [Text.cutAt_fst]
    exact fun hmem => h ((List.takeWhile_sublist _).mem hmem)
  cases hcut : Text.cutAtLast '/' path with
  | mk before last =>
    cases before with
    | none =>
      obtain ⟨rfl, hnone⟩ := Text.cutAtLast_eq_none hcut
      have hdropped : dropParameters last = (Text.cutAt ';' last).1 := by rw [dropParameters, hcut]
      rw [hdropped, dropParameters, Text.cutAtLast_of_not_mem (hrooted last hnone)]
      exact htwice last
    | some before =>
      have hnone := (Text.cutAtLast_eq_some hcut).2
      have hdropped : dropParameters path = before ++ '/' :: (Text.cutAt ';' last).1 := by
        rw [dropParameters, hcut]
      rw [hdropped, dropParameters, Text.cutAtLast_append _ (hrooted last hnone)]
      simp only [htwice]

theorem dropParameters_sublist (path : List Char) : (dropParameters path).Sublist path := by
  unfold dropParameters
  cases hcut : Text.cutAtLast '/' path with
  | mk before last =>
    cases before with
    | none =>
      obtain ⟨rfl, -⟩ := Text.cutAtLast_eq_none hcut
      simp only [Text.cutAt_fst]
      exact List.takeWhile_sublist _
    | some before =>
      obtain ⟨rfl, -⟩ := Text.cutAtLast_eq_some hcut
      simp only [Text.cutAt_fst]
      exact (List.Sublist.refl before).append ((List.takeWhile_sublist _).cons_cons '/')

/-- Dropping parameters leaves a path rooted. -/
theorem dropParameters_rooted (rest : List Char) : ∃ rest', dropParameters ('/' :: rest) = '/' :: rest' := by
  cases hcut : Text.cutAtLast '/' ('/' :: rest) with
  | mk before last =>
    cases before with
    | none => exact absurd (List.mem_cons_self ..) (Text.cutAtLast_eq_none hcut).2
    | some before =>
      have hsplit := (Text.cutAtLast_eq_some hcut).1
      rw [dropParameters, hcut]
      cases before with
      | nil => exact ⟨_, rfl⟩
      | cons c before =>
        obtain rfl : '/' = c := (List.cons.inj hsplit).1
        exact ⟨_, rfl⟩

/-- The path in what follows an authority. -/
def writtenPath (rest : List Char) : List Char :=
  (Text.cutAt '?' (Text.cutAt '#' rest).1).1

/-- The path as it is read under a scheme. -/
def pathUnder (scheme path : List Char) : List Char :=
  if schemesWithParameters.contains (String.ofList scheme) then dropParameters path else path

theorem writtenPath_eq (rest : List Char) :
    writtenPath rest = (rest.takeWhile (· != '#')).takeWhile (· != '?') := by
  rw [writtenPath, Text.cutAt_fst, Text.cutAt_fst]

theorem writtenPath_sublist (rest : List Char) : (writtenPath rest).Sublist rest := by
  rw [writtenPath_eq]
  exact (List.takeWhile_sublist _).trans (List.takeWhile_sublist _)

theorem writtenPath_plain (rest : List Char) : '?' ∉ writtenPath rest ∧ '#' ∉ writtenPath rest := by
  rw [writtenPath_eq]
  refine ⟨Text.not_mem_takeWhile '?' _, fun h => Text.not_mem_takeWhile '#' rest ?_⟩
  exact (List.takeWhile_sublist _).mem h

theorem writtenPath_rooted {c : Char} (h : endsAuthority c = true) (rest : List Char) :
    writtenPath (c :: rest) = [] ∨ ∃ rest', writtenPath (c :: rest) = '/' :: rest' := by
  rw [writtenPath_eq]
  simp only [endsAuthority, Bool.or_eq_true, beq_iff_eq] at h
  obtain (rfl | rfl) | rfl := h
  · exact .inr ⟨_, rfl⟩
  · exact .inl rfl
  · exact .inl rfl

theorem pathUnder_sublist (scheme path : List Char) : (pathUnder scheme path).Sublist path := by
  unfold pathUnder
  split
  · exact dropParameters_sublist path
  · exact List.Sublist.refl path

theorem pathUnder_rooted (scheme rest : List Char) : ∃ rest', pathUnder scheme ('/' :: rest) = '/' :: rest' := by
  unfold pathUnder
  split
  · exact dropParameters_rooted rest
  · exact ⟨rest, rfl⟩

theorem pathUnder_nil (scheme : List Char) : pathUnder scheme [] = [] :=
  List.sublist_nil.mp (pathUnder_sublist scheme [])

theorem pathUnder_pathUnder (scheme path : List Char) :
    pathUnder scheme (pathUnder scheme path) = pathUnder scheme path := by
  unfold pathUnder
  split
  · exact dropParameters_dropParameters path
  · rfl

/-! ### Accepted parts -/

theorem unbroken_of_sublist_clean {cs ds : List Char} (h : ds.Sublist (clean cs)) : unbroken ds = ds :=
  List.filter_eq_self.mpr fun _ hd => (List.mem_filter.mp (h.mem hd)).2

theorem parts_eq_ok {uri : String} {parts : Parts} (h : Uri.parts uri = .ok parts) :
    ∃ rest, rest = (cutScheme (clean uri.toList)).2 ∧
      parts.scheme = (cutScheme (clean uri.toList)).1 ∧ parts.authority = (cutAuthority rest).1 ∧
      parts.path = pathUnder parts.scheme (writtenPath (cutAuthority rest).2) ∧
      checkBrackets parts.authority = .ok () ∧ checkAuthority parts.authority = .ok () := by
  unfold Uri.parts at h
  cases hscheme : cutScheme (clean uri.toList) with
  | mk scheme rest =>
    cases hauthority : cutAuthority rest with
    | mk authority after =>
      simp only [hscheme, hauthority] at h
      obtain ⟨⟨⟩, hbrackets, h⟩ := Recorded.except_bind_eq_ok.mp h
      obtain ⟨⟨⟩, hcharacters, h⟩ := Recorded.except_bind_eq_ok.mp h
      obtain rfl := Except.ok.inj h
      refine ⟨rest, rfl, rfl, ?_, ?_, hbrackets, hcharacters⟩
      · rw [hauthority]
      · rw [hauthority]
        rfl

/-- What holds of parts that were accepted. -/
structure Parts.Accepted (parts : Parts) : Prop where
  scheme : parts.scheme = [] ∨
    isScheme parts.scheme = true ∧ parts.scheme.map Char.toLower = parts.scheme
  brackets : checkBrackets parts.authority = .ok ()
  characters : checkAuthority parts.authority = .ok ()
  inside : ∀ c ∈ parts.authority, endsAuthority c = false
  authority_unbroken : unbroken parts.authority = parts.authority
  path_unbroken : unbroken parts.path = parts.path
  path_plain : '?' ∉ parts.path ∧ '#' ∉ parts.path
  path_rooted : parts.authority = [] ∨ parts.path = [] ∨ ∃ rest, parts.path = '/' :: rest
  path_whole : pathUnder parts.scheme parts.path = parts.path

theorem accepted_of_parts {uri : String} {parts : Parts} (h : Uri.parts uri = .ok parts) :
    parts.Accepted := by
  obtain ⟨rest, hrest, hscheme, hauthority, hpath, hbrackets, hcharacters⟩ := parts_eq_ok h
  have hclean : rest.Sublist (clean uri.toList) := hrest ▸ cutScheme_snd_sublist _
  have hpath_sublist : parts.path.Sublist (writtenPath (cutAuthority rest).2) :=
    hpath ▸ pathUnder_sublist _ _
  exact {
    scheme := by
      obtain hnone | ⟨scheme, hvalid, hlowered⟩ := cutScheme_fst (clean uri.toList)
      · exact .inl (hscheme.trans hnone)
      · rw [hscheme, hlowered]
        exact .inr (isScheme_lowered hvalid)
    brackets := hbrackets
    characters := hcharacters
    inside := hauthority ▸ cutAuthority_inside rest
    authority_unbroken :=
      unbroken_of_sublist_clean (hauthority ▸ (cutAuthority_sublist rest).1.trans hclean)
    path_unbroken := unbroken_of_sublist_clean
      (((hpath_sublist.trans (writtenPath_sublist _)).trans (cutAuthority_sublist rest).2).trans hclean)
    path_plain := ⟨fun hmem => (writtenPath_plain _).1 (hpath_sublist.mem hmem),
      fun hmem => (writtenPath_plain _).2 (hpath_sublist.mem hmem)⟩
    path_rooted := by
      rw [hauthority, hpath]
      obtain hnone | hnone | ⟨c, rest', hrest', hends⟩ := cutAuthority_ends rest
      · exact .inl hnone
      · rw [hnone]
        exact .inr (.inl (pathUnder_nil _))
      · rw [hrest']
        obtain hempty | ⟨path, hrooted⟩ := writtenPath_rooted hends rest'
        · rw [hempty]
          exact .inr (.inl (pathUnder_nil _))
        · rw [hrooted]
          exact .inr (.inr (pathUnder_rooted _ path))
    path_whole := by rw [hpath, pathUnder_pathUnder] }

end SqlBuilder.Uri
