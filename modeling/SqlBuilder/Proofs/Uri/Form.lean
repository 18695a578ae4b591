import Mathlib.Data.List.Nodup
import SqlBuilder.Proofs.Uri.Escaping
import SqlBuilder.Proofs.Uri.Percent

/-!
Queries written and read back. Main statement: distinct names with values that are not empty are read as they
were written.
-/

namespace SqlBuilder.Uri

/-! ### Texts in a query -/

/-- A plus sign is read as a space before escapes are read. -/
def spacePlus (c : Char) : Char :=
  if c = '+' then ' ' else c

/-- Characters of a query are escaped like others, but for the space. -/
theorem encodeFormChar_eq (c : Char) : encodeFormChar c = if c = ' ' then ['+'] else escapeChar c := by
  unfold encodeFormChar escapeChar
  by_cases hspace : c = ' '
  · subst hspace
    rfl
  · rw [if_neg hspace, if_neg hspace]

theorem octets_encodeFormChar (c : Char) (cs : List Char) :
    octets ((encodeFormChar c).map spacePlus ++ cs) = (Text.encodeChar c).map .byte ++ octets cs := by
  rw [encodeFormChar_eq]
  split
  · rename_i hspace
    subst hspace
    exact octets_cons (by decide) cs
  · have hsame : (escapeChar c).map spacePlus = escapeChar c := by
      refine (List.map_congr_left fun d hd => if_neg ?_).trans (List.map_id _)
      rintro rfl
      exact (isEncoded_escapeChar c).not_mem (by decide) (by decide) hd
    rw [hsame, octets_escapeChar]

/-- An encoded text is read back. -/
theorem decodeForm_encodeForm (cs : List Char) : decodeForm (encodeForm cs) = cs := by
  have hdecode : decodeForm (encodeForm cs) = decode ((encodeForm cs).map spacePlus) := rfl
  rw [hdecode, decode, Text.decodeUtf8]
  induction cs with
  | nil => rfl
  | cons c cs ih =>
    have hcons : encodeForm (c :: cs) = encodeFormChar c ++ encodeForm cs := rfl
    rw [hcons, List.map_append, octets_encodeFormChar, Text.decodeFrom_encodeChar, ih rfl]

/-! ### Marks that an encoded text has not -/

/-- Unreserved characters, escapes, and plus signs for spaces. -/
def isFormChar (c : Char) : Bool :=
  isUnreserved c || c == '%' || c == '+'

theorem encodeFormChar_ne_nil (c : Char) : encodeFormChar c ≠ [] := by
  rw [encodeFormChar_eq]
  split
  · exact List.cons_ne_nil _ _
  · exact escapeChar_ne_nil c

theorem encodeForm_ne_nil {cs : List Char} (h : cs ≠ []) : encodeForm cs ≠ [] := by
  obtain ⟨c, cs, rfl⟩ := List.exists_cons_of_ne_nil h
  exact List.append_ne_nil_of_left_ne_nil (encodeFormChar_ne_nil c) _

theorem isFormChar_encodeForm (cs : List Char) : ∀ d ∈ encodeForm cs, isFormChar d = true := by
  intro d hd
  obtain ⟨c, -, hd⟩ := List.mem_flatMap.mp hd
  rw [encodeFormChar_eq] at hd
  unfold isFormChar
  split at hd
  · rw [List.mem_singleton.mp hd]
    rfl
  · obtain hunreserved | rfl := isEncoded_escapeChar c d hd
    · rw [hunreserved]
      rfl
    · rfl

theorem not_mem_encodeForm {d : Char} (h : isFormChar d = false) (cs : List Char) : d ∉ encodeForm cs := by
  intro hd
  rw [isFormChar_encodeForm cs d hd] at h
  cases h

theorem not_mem_encodePair {d : Char} (h : isFormChar d = false) (hequals : d ≠ '=')
    (pair : String × String) : d ∉ encodePair pair := by
  rw [encodePair, List.mem_append, List.mem_cons, not_or, not_or]
  exact ⟨not_mem_encodeForm h _, hequals, not_mem_encodeForm h _⟩

/-! ### Queries -/

theorem queryPair?_encodePair {pair : String × String} (h : pair.2 ≠ "") :
    queryPair? (encodePair pair) = some pair := by
  have hvalue : pair.2.toList ≠ [] := by
    intro hempty
    exact h (String.toList_injective hempty)
  obtain ⟨c, cs, hgiven⟩ := List.exists_cons_of_ne_nil (encodeForm_ne_nil hvalue)
  have hdecoded : decodeForm (c :: cs) = pair.2.toList := by rw [← hgiven, decodeForm_encodeForm]
  rw [encodePair, queryPair?, hgiven, Text.cutAt_append (not_mem_encodeForm (by decide) _)]
  simp only [hdecoded, decodeForm_encodeForm, String.ofList_toList]

theorem foldl_addFirst {read pairs : List (String × String)} (h : ((pairs ++ read).map (·.1)).Nodup) :
    read.foldl addFirst pairs = pairs ++ read := by
  induction read generalizing pairs with
  | nil => exact (List.append_nil pairs).symm
  | cons pair read ih =>
    have hnew : pairs.any (·.1 == pair.1) = false := by
      rw [List.map_append, List.nodup_append] at h
      rw [List.any_eq_false]
      intro other hother hsame
      exact h.2.2 other.1 (List.mem_map_of_mem hother) pair.1 (by simp) (beq_iff_eq.mp hsame)
    have hsplit : pairs ++ pair :: read = (pairs ++ [pair]) ++ read := by simp
    rw [List.foldl_cons, addFirst, hnew, if_neg (by simp), hsplit]
    exact ih (hsplit ▸ h)

/-- Distinct names with values that are not empty are read back. -/
theorem queryPairs_encodeQuery {query : List (String × String)} (hdistinct : (query.map (·.1)).Nodup)
    (hvalues : ∀ pair ∈ query, pair.2 ≠ "") : queryPairs (encodeQuery query).toList = query := by
  cases query with
  | nil => rfl
  | cons pair query =>
    have hparts : ((pair :: query).map encodePair).filterMap queryPair? = pair :: query := by
      rw [List.filterMap_map]
      exact (List.filterMap_congr fun pair hpair => queryPair?_encodePair (hvalues pair hpair)).trans
        List.filterMap_some
    have hplain : ∀ part ∈ (pair :: query).map encodePair, '&' ∉ part := by
      intro part hpart
      obtain ⟨pair, -, rfl⟩ := List.mem_map.mp hpart
      exact not_mem_encodePair (by decide) (by decide) pair
    rw [queryPairs, encodeQuery, String.toList_ofList, Text.splitAt_intercalate (by simp) hplain, hparts]
    have hkeys : (([] ++ pair :: query).map Prod.fst).Nodup := hdistinct
    exact foldl_addFirst hkeys

theorem not_mem_encodeQuery {c : Char} (h : isFormChar c = false) (hequals : c ≠ '=') (hand : c ≠ '&')
    (query : List (String × String)) : c ∉ (encodeQuery query).toList := by
  rw [encodeQuery, String.toList_ofList]
  induction query with
  | nil => exact List.not_mem_nil
  | cons pair query ih =>
    cases query with
    | nil =>
      rw [List.map_cons, List.map_nil, List.intercalate_singleton]
      exact not_mem_encodePair h hequals pair
    | cons next query =>
      rw [List.map_cons, List.map_cons, List.intercalate_cons_cons, List.append_assoc, List.mem_append,
        List.mem_append, not_or, not_or, List.mem_singleton]
      exact ⟨not_mem_encodePair h hequals pair, hand, ih⟩

/-! ### Queries that were read -/

theorem mem_of_mem_foldl_addFirst {read pairs : List (String × String)} {pair : String × String}
    (h : pair ∈ read.foldl addFirst pairs) : pair ∈ pairs ∨ pair ∈ read := by
  induction read generalizing pairs with
  | nil => exact .inl h
  | cons first read ih =>
    obtain hearlier | hlater := ih h
    · unfold addFirst at hearlier
      split at hearlier
      · exact .inl hearlier
      · obtain hpairs | hfirst := List.mem_append.mp hearlier
        · exact .inl hpairs
        · exact .inr (List.mem_cons.mpr (.inl (List.mem_singleton.mp hfirst)))
    · exact .inr (List.mem_cons_of_mem first hlater)

/-- Parameters without a value are not read. -/
theorem queryPairs_given (query : List Char) : ∀ pair ∈ queryPairs query, pair.2 ≠ "" := by
  intro pair hpair
  obtain hnone | hread := mem_of_mem_foldl_addFirst hpair
  · exact absurd hnone List.not_mem_nil
  · obtain ⟨part, -, hpart⟩ := List.mem_filterMap.mp hread
    unfold queryPair? at hpart
    split at hpart
    · rename_i name c value hcut
      obtain rfl := Option.some.inj hpart
      intro hempty
      exact decode_ne_nil (List.cons_ne_nil _ _) (String.ofList_injective hempty)
    · cases hpart

end SqlBuilder.Uri
