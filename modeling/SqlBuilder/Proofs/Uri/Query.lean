import Mathlib.Data.List.Forall2
import SqlBuilder.Proofs.Uri.Composition

/-!
Queries that differ in the values of some parameters. Main statement: what is written with the same keys, and
with other values under some of them, is read with the same keys and other values under those.
-/

namespace SqlBuilder.Uri

/-- The same key, and the same value unless the key is secret. -/
def PairAlike (secret : String → Prop) (pair pair' : String × String) : Prop :=
  pair.1 = pair'.1 ∧ (pair.2 = pair'.2 ∨ secret pair.1)

/-- The same part of a query, or one with another value under a secret key. No value is empty, also without
tabs and line breaks. -/
inductive PartAlike (secret : String → Prop) : List Char → List Char → Prop
  | same (part : List Char) : PartAlike secret part part
  | value {name value value' : List Char} (plain : '=' ∉ name)
      (key : secret (String.ofList (decodeForm (unbroken name))))
      (given : unbroken value ≠ []) (given' : unbroken value' ≠ []) :
      PartAlike secret (name ++ '=' :: value) (name ++ '=' :: value')

/-- Both are missing, or both are there and alike in each of their parts. -/
inductive QueryAlike (secret : String → Prop) : Option (List Char) → Option (List Char) → Prop
  | missing : QueryAlike secret none none
  | given {query query' : List Char} (plain : '#' ∉ query) (plain' : '#' ∉ query')
      (parts : List.Forall₂ (PartAlike secret) (Text.splitAt '&' query) (Text.splitAt '&' query')) :
      QueryAlike secret (some query) (some query')

variable {secret : String → Prop}

theorem QueryAlike.plain {query query' : Option (List Char)} (h : QueryAlike secret query query') :
    (∀ text ∈ query, '#' ∉ text) ∧ ∀ text ∈ query', '#' ∉ text := by
  cases h with
  | missing => simp
  | given plain plain' parts => simp [plain, plain']

theorem pairAlike_refl (pair : String × String) : PairAlike secret pair pair :=
  ⟨rfl, .inl rfl⟩

/-! ### Reading queries -/

theorem queryPair?_given {name value : List Char} (plain : '=' ∉ name) (given : value ≠ []) :
    queryPair? (name ++ '=' :: value) =
      some (String.ofList (decodeForm name), String.ofList (decodeForm value)) := by
  obtain ⟨c, cs, rfl⟩ := List.exists_cons_of_ne_nil given
  rw [queryPair?, Text.cutAt_append plain]

theorem PartAlike.queryPair? {part part' : List Char} (h : PartAlike secret part part') :
    Option.Rel (PairAlike secret) (queryPair? (unbroken part)) (queryPair? (unbroken part')) := by
  cases h with
  | same part =>
    cases Uri.queryPair? (unbroken part) with
    | none => exact .none
    | some pair => exact .some (pairAlike_refl pair)
  | value plain key given given' =>
    simp only [unbroken_append, unbroken_cons (c := '=') (by decide)]
    rw [queryPair?_given (not_mem_unbroken plain) given, queryPair?_given (not_mem_unbroken plain) given']
    exact .some ⟨rfl, .inr key⟩

theorem any_key_eq {pairs pairs' : List (String × String)} (h : List.Forall₂ (PairAlike secret) pairs pairs')
    (key : String) : pairs.any (·.1 == key) = pairs'.any (·.1 == key) := by
  induction h with
  | nil => rfl
  | cons hpair _ ih => rw [List.any_cons, List.any_cons, ih, hpair.1]

theorem addFirst_alike {pairs pairs' : List (String × String)} {pair pair' : String × String}
    (h : List.Forall₂ (PairAlike secret) pairs pairs') (hpair : PairAlike secret pair pair') :
    List.Forall₂ (PairAlike secret) (addFirst pairs pair) (addFirst pairs' pair') := by
  unfold addFirst
  rw [any_key_eq h, hpair.1]
  split
  · exact h
  · exact List.rel_append h (.cons hpair .nil)

/-- Parameters are read alike from queries that are written alike. -/
theorem queryPairs_alike {query query' : Option (List Char)} (h : QueryAlike secret query query') :
    List.Forall₂ (PairAlike secret) (queryPairs ((query.map unbroken).getD []))
      (queryPairs ((query'.map unbroken).getD [])) := by
  cases h with
  | missing => exact List.forall₂_same.mpr fun pair _ => pairAlike_refl pair
  | @given query query' plain plain' parts =>
    have hsplit (cs : List Char) : Text.splitAt '&' (unbroken cs) = (Text.splitAt '&' cs).map unbroken :=
      Text.splitAt_filter (by decide) cs
    have hparts : List.Forall₂ (PairAlike secret) ((Text.splitAt '&' (unbroken query)).filterMap queryPair?)
        ((Text.splitAt '&' (unbroken query')).filterMap queryPair?) := by
      rw [hsplit, hsplit, List.filterMap_map, List.filterMap_map]
      exact List.rel_filterMap (fun _ _ hpart => PartAlike.queryPair? hpart) parts
    exact List.rel_foldl (P := List.Forall₂ (PairAlike secret)) (R := PairAlike secret)
      (fun _ _ hpairs _ _ hpair => addFirst_alike hpairs hpair) .nil hparts

/-- What stands under a key that is not secret is the same. -/
theorem lookup_alike {pairs pairs' : List (String × String)} (h : List.Forall₂ (PairAlike secret) pairs pairs')
    {key : String} (hkey : ¬ secret key) : pairs.lookup key = pairs'.lookup key := by
  induction h with
  | nil => rfl
  | @cons pair pair' _ _ hpair _ ih =>
    obtain ⟨name, value⟩ := pair
    obtain ⟨name', value'⟩ := pair'
    obtain ⟨rfl, hvalue⟩ := hpair
    rw [List.lookup_cons, List.lookup_cons, ih]
    cases hsame : key == name with
    | false => rfl
    | true =>
      have hpublic : ¬ secret name := beq_iff_eq.mp hsame ▸ hkey
      exact congrArg some (hvalue.resolve_right hpublic)

end SqlBuilder.Uri
