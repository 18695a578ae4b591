import Mathlib.Data.List.SplitBy
import SqlBuilder.Proofs.Sql.Placeholder
import SqlBuilder.Proofs.Sql.Text

/-!
Clauses on nulls in the text of SQL, read off its words outside quotes. Main statement: the clauses of a text are
those of its parts in their order, if no part leaves a quote open or begins a clause without ending it.
-/

namespace SqlBuilder

open Placeholder

/-- What the reading of clauses on nulls tells apart; whatever stands in quotes is `other`. -/
inductive Word where
  | null | not | default | other
deriving DecidableEq

namespace Word

def isLetter (c : Char) : Bool :=
  c.isAlphanum || c == '_'

/-- The case of letters is not looked at. -/
def ofRun (run : List Char) : Word :=
  if run.map Char.toLower = "null".toList then .null
  else if run.map Char.toLower = "not".toList then .not
  else if run.map Char.toLower = "default".toList then .default
  else .other

/-- Blanks are no words. -/
def ofRun? (run : List Char) : Option Word :=
  if run.all Char.isWhitespace then none else some (ofRun run)

end Word

namespace Words

/-- What stands in quotes, the quotes included, is not told apart. -/
def mask (quote : Option Char) (c : Char) : Char :=
  if quote = none ∧ c ≠ '\'' ∧ c ≠ '"' then c else '\''

def outside (quote : Option Char) : List Char → List Char
  | [] => []
  | c :: rest => mask quote c :: outside (openQuote quote c) rest

/-- Two letters next to each other are in one word. -/
def together (c d : Char) : Bool :=
  Word.isLetter c && Word.isLetter d

def of (cs : List Char) : List Word :=
  ((outside none cs).splitBy together).filterMap Word.ofRun?

/-- The clauses on nulls, each with whether it allows them. A null that is a default is none. -/
def nullClauses : List Word → List Bool
  | .default :: .null :: rest => nullClauses rest
  | .not :: .null :: rest => false :: nullClauses rest
  | .null :: rest => true :: nullClauses rest
  | _ :: rest => nullClauses rest
  | [] => []

example : nullClauses (of "\"null\" int NOT null default 'not null'".toList) = [false] := by decide

/-! ### Parts of a text -/

theorem outside_append (quote : Option Char) (xs ys : List Char) :
    outside quote (xs ++ ys) = outside quote xs ++ outside (quoteAfter quote xs) ys := by
  induction xs generalizing quote with
  | nil => rfl
  | cons x xs ih =>
    rw [List.cons_append, outside, outside, ih]
    rfl

theorem isLetter_of_mask {quote : Option Char} {c : Char} (h : Word.isLetter (mask quote c) = true) :
    Word.isLetter c = true := by
  rw [mask] at h
  split at h
  · exact h
  · cases h

/-- No word goes from the end of the one text into the beginning of the other. -/
def Apart (xs ys : List Char) : Prop :=
  ∀ c ∈ xs.getLast?, ∀ d ∈ ys.head?, together c d = false

theorem apart_of_last {xs : List Char} (h : xs.getLast?.any Word.isLetter = false) (ys : List Char) :
    Apart xs ys := by
  intro c hc d _
  have hc : xs.getLast? = some c := hc
  rw [hc, Option.any_some] at h
  rw [together, h, Bool.false_and]

theorem apart_of_head {ys : List Char} (h : ys.head?.any Word.isLetter = false) (xs : List Char) :
    Apart xs ys := by
  intro c _ d hd
  have hd : ys.head? = some d := hd
  rw [hd, Option.any_some] at h
  rw [together, h, Bool.and_false]

theorem together_mask {quote quote' : Option Char} {c d : Char} (h : together c d = false) :
    together (mask quote c) (mask quote' d) = false := by
  rw [Bool.eq_false_iff, together, Ne, Bool.and_eq_true, not_and] at h ⊢
  exact fun hc hd => h (isLetter_of_mask hc) (isLetter_of_mask hd)

theorem of_append {xs ys : List Char} (hclosed : quoteAfter none xs = none) (hapart : Apart xs ys) :
    of (xs ++ ys) = of xs ++ of ys := by
  have hsplit : (outside none (xs ++ ys)).splitBy together =
      (outside none xs).splitBy together ++ (outside none ys).splitBy together := by
    rw [outside_append, hclosed]
    refine List.splitBy_append fun c hc d hd => ?_
    -- Masking leaves a character at its place, so the ends are those of the texts themselves.
    cases xs using List.reverseRecOn with
    | nil => simp [outside] at hc
    | append_singleton start last _ =>
      cases ys with
      | nil => simp [outside] at hd
      | cons first rest =>
        rw [outside_append] at hc
        obtain rfl : mask _ last = c := by simpa [outside] using hc
        obtain rfl : mask none first = d := by simpa [outside] using hd
        exact together_mask (hapart last (by simp) first (by simp))
  rw [of, hsplit, List.filterMap_append]
  rfl

theorem nullClauses_append {xs ys : List Word} (h : ∀ word ∈ xs.getLast?, word ≠ .default ∧ word ≠ .not) :
    nullClauses (xs ++ ys) = nullClauses xs ++ nullClauses ys := by
  fun_induction nullClauses xs with
  | case1 rest ih =>
    rw [List.cons_append, List.cons_append, nullClauses]
    exact ih fun word hword => h word (by cases rest <;> simp_all)
  | case2 rest ih =>
    rw [List.cons_append, List.cons_append, nullClauses, ih fun word hword => h word (by cases rest <;> simp_all)]
    rfl
  | case3 rest ih =>
    rw [List.cons_append, nullClauses, ih fun word hword => h word (by cases rest <;> simp_all)]
    rfl
  | case4 word rest hdefault hnot hnull ih =>
    -- Only here may what follows decide how the word is read: if it is the last one, and so neither of the two.
    have hrest := ih fun word hword => h word (by cases rest <;> simp_all)
    have hcons : nullClauses ((word :: rest) ++ ys) = nullClauses (rest ++ ys) := by
      cases rest with
      | nil => cases word <;> simp_all [nullClauses]
      | cons next rest => cases word <;> cases next <;> simp_all [nullClauses]
    rw [hcons, hrest]
  | case5 => rfl

/-! ### Clauses of a text -/

/-- No quote is left open, the clauses on nulls are these, and no further one has begun. -/
structure Reads (cs : List Char) (clauses : List Bool) : Prop where
  closed : quoteAfter none cs = none
  clauses_eq : nullClauses (of cs) = clauses
  complete : ∀ word ∈ (of cs).getLast?, word ≠ .default ∧ word ≠ .not

theorem reads_nil : Reads [] [] :=
  ⟨rfl, rfl, by simp [of, outside]⟩

theorem Reads.append {xs ys : List Char} {first second : List Bool} (hx : Reads xs first) (hy : Reads ys second)
    (hapart : Apart xs ys) : Reads (xs ++ ys) (first ++ second) := by
  have hof := of_append hx.closed hapart
  refine ⟨?_, ?_, ?_⟩
  · rw [quoteAfter_append, hx.closed, hy.closed]
  · rw [hof, nullClauses_append hx.complete, hx.clauses_eq, hy.clauses_eq]
  · intro word hword
    rw [hof, List.getLast?_append] at hword
    cases hlast : (of ys).getLast? with
    | none => exact hx.complete word (by simpa [hlast] using hword)
    | some last => exact hy.complete word (by simpa [hlast] using hword)

instance (cs : List Char) (clauses : List Bool) : Decidable (Reads cs clauses) :=
  decidable_of_iff (quoteAfter none cs = none ∧ nullClauses (of cs) = clauses ∧
    ∀ word ∈ (of cs).getLast?, word ≠ .default ∧ word ≠ .not)
    ⟨fun h => ⟨h.1, h.2.1, h.2.2⟩, fun h => ⟨h.closed, h.clauses_eq, h.complete⟩⟩

example : Reads "int unsigned not null auto_increment primary key".toList [false] := by decide +kernel

/-- Each part with clauses of its own. -/
inductive ReadsEach : List Sql → List Bool → Prop
  | nil : ReadsEach [] []
  | cons {part : Sql} {parts : List Sql} {first rest : List Bool} :
      Reads part.text.toList first → ReadsEach parts rest → ReadsEach (part :: parts) (first ++ rest)

theorem readsEach_singleton {part : Sql} {clauses : List Bool} (h : Reads part.text.toList clauses) :
    ReadsEach [part] clauses := by
  simpa using ReadsEach.cons h .nil

theorem readsEach_of_forall {parts : List Sql} (h : ∀ part ∈ parts, Reads part.text.toList []) :
    ReadsEach parts [] := by
  induction parts with
  | nil => exact .nil
  | cons part parts ih =>
    obtain ⟨hpart, hparts⟩ := List.forall_mem_cons.mp h
    exact .cons hpart (ih hparts)

theorem ReadsEach.append {xs ys : List Sql} {first second : List Bool} (hx : ReadsEach xs first)
    (hy : ReadsEach ys second) : ReadsEach (xs ++ ys) (first ++ second) := by
  induction hx with
  | nil => exact hy
  | cons hpart _ ih =>
    rw [List.cons_append, List.append_assoc]
    exact .cons hpart ih

/-- What may stand between parts: no word goes through it. -/
structure Gap (cs : List Char) : Prop where
  reads : Reads cs []
  first : cs.head?.map Word.isLetter = some false
  last : cs.getLast?.any Word.isLetter = false

theorem gap_blank : Gap " ".toList := ⟨by decide, by decide, by decide⟩

theorem gap_comma : Gap ", ".toList := ⟨by decide, by decide, by decide⟩

theorem gap_dot : Gap ".".toList := ⟨by decide, by decide, by decide⟩

theorem Gap.apart_left {gap : List Char} (h : Gap gap) (xs ys : List Char) : Apart xs (gap ++ ys) := by
  obtain ⟨c, hc, hletter⟩ := Option.map_eq_some_iff.mp h.first
  refine apart_of_head ?_ xs
  rw [List.head?_append, hc, Option.some_or, Option.any_some, hletter]

theorem ReadsEach.separated {parts : List Sql} {clauses : List Bool} (h : ReadsEach parts clauses)
    {separator : String} (hgap : Gap separator.toList) :
    Reads (Sql.separated separator parts).text.toList clauses := by
  induction h with
  | nil => exact reads_nil
  | @cons part parts first rest hpart hrest ih =>
    cases hrest with
    | nil => simpa using hpart
    | cons _ _ =>
      rw [Sql.separated_cons_cons, Sql.toList_text_append, Sql.toList_text_append, Sql.toList_text_code]
      exact hpart.append (hgap.reads.append ih (apart_of_last hgap.last _)) (hgap.apart_left _ _)

/-! ### Parts without clauses -/

/-- There are words, and in them neither a clause on nulls nor the beginning of one at their end. -/
structure Silent (cs : List Char) : Prop where
  reads : Reads cs []
  ne_nil : of cs ≠ []

instance (cs : List Char) : Decidable (Silent cs) :=
  decidable_of_iff (Reads cs [] ∧ of cs ≠ []) ⟨fun h => ⟨h.1, h.2⟩, fun h => ⟨h.reads, h.ne_nil⟩⟩

/-- A null behind this word is a default, and so is no clause. -/
theorem Silent.after_default {cs : List Char} (h : Silent cs) : Reads ("default ".toList ++ cs) [] := by
  have hof : of ("default ".toList ++ cs) = .default :: of cs :=
    of_append (by decide) (apart_of_last (by decide) cs)
  refine ⟨?_, ?_, ?_⟩
  · rw [quoteAfter_append, show quoteAfter none "default ".toList = none by decide, h.reads.closed]
  · rw [hof]
    have hclauses := h.reads.clauses_eq
    cases hwords : of cs with
    | nil => rfl
    | cons word words =>
      rw [hwords] at hclauses
      cases word <;> simp_all [nullClauses]
  · obtain ⟨word, words, hwords⟩ := List.exists_cons_of_ne_nil h.ne_nil
    have hcomplete := h.reads.complete
    rw [hof]
    rw [hwords] at hcomplete ⊢
    simpa using hcomplete

/-- All three words that are told apart hold one of these letters. -/
def isMute (c : Char) : Bool :=
  c.toLower != 'l' && c.toLower != 't'

theorem ofRun_of_mute {run : List Char} (h : ∀ c ∈ run, isMute c = true) : Word.ofRun run = .other := by
  have hmute : ∀ c ∈ run.map Char.toLower, c ≠ 'l' ∧ c ≠ 't' := by
    intro c hc
    obtain ⟨d, hd, rfl⟩ := List.mem_map.mp hc
    simpa [isMute] using h d hd
  have hother : ∀ word : List Char, 'l' ∈ word ∨ 't' ∈ word → run.map Char.toLower ≠ word := by
    rintro _ hletter rfl
    rcases hletter with hl | ht
    · exact (hmute _ hl).1 rfl
    · exact (hmute _ ht).2 rfl
  rw [Word.ofRun, if_neg (hother _ (by decide)), if_neg (hother _ (by decide)), if_neg (hother _ (by decide))]

theorem of_of_mute {cs : List Char} (h : ∀ c ∈ outside none cs, isMute c = true) :
    ∀ word ∈ of cs, word = .other := by
  intro word hword
  obtain ⟨run, hrun, hread⟩ := List.mem_filterMap.mp hword
  have hsub : ∀ c ∈ run, isMute c = true := by
    intro c hc
    refine h c ?_
    rw [← List.flatten_splitBy together (outside none cs)]
    exact List.mem_flatten.mpr ⟨run, hrun, hc⟩
  rw [Word.ofRun?] at hread
  split at hread
  · cases hread
  · rw [← Option.some.inj hread, ofRun_of_mute hsub]

theorem nullClauses_of_other {words : List Word} (h : ∀ word ∈ words, word = .other) : nullClauses words = [] := by
  induction words with
  | nil => rfl
  | cons word words ih =>
    obtain ⟨rfl, hwords⟩ := List.forall_mem_cons.mp h
    rw [nullClauses, ih hwords] <;> simp

theorem reads_of_mute {cs : List Char} (hclosed : quoteAfter none cs = none)
    (h : ∀ c ∈ outside none cs, isMute c = true) : Reads cs [] := by
  have hother := of_of_mute h
  refine ⟨hclosed, nullClauses_of_other hother, fun word hword => ?_⟩
  rw [hother word (List.mem_of_getLast? hword)]
  decide

theorem of_ne_nil {cs : List Char} (h : ∃ c ∈ outside none cs, c.isWhitespace = false) : of cs ≠ [] := by
  obtain ⟨c, hc, hblank⟩ := h
  rw [← List.flatten_splitBy together (outside none cs)] at hc
  obtain ⟨run, hrun, hc⟩ := List.mem_flatten.mp hc
  have hread : Word.ofRun? run = some (Word.ofRun run) := by
    rw [Word.ofRun?, if_neg]
    simp only [List.all_eq_true, not_forall]
    exact ⟨c, hc, by simp [hblank]⟩
  exact List.ne_nil_of_mem (List.mem_filterMap.mpr ⟨run, hrun, hread⟩)

theorem silent_of_mute {cs : List Char} (hclosed : quoteAfter none cs = none) (hne : cs ≠ [])
    (h : ∀ c ∈ outside none cs, isMute c = true ∧ c.isWhitespace = false) : Silent cs := by
  refine ⟨reads_of_mute hclosed fun c hc => (h c hc).1, of_ne_nil ?_⟩
  obtain ⟨c, rest, rfl⟩ := List.exists_cons_of_ne_nil hne
  exact ⟨mask none c, List.mem_cons_self, (h _ List.mem_cons_self).2⟩

theorem mem_outside {quote : Option Char} {cs : List Char} {c : Char} (h : c ∈ outside quote cs) :
    c = '\'' ∨ c ∈ cs := by
  induction cs generalizing quote with
  | nil => cases h
  | cons d cs ih =>
    rcases List.mem_cons.mp h with rfl | h
    · rw [mask]
      split
      · exact .inr List.mem_cons_self
      · exact .inl rfl
    · exact (ih h).imp_right (List.mem_cons_of_mem d)

theorem silent_of_isNumeral {cs : List Char} (h : cs.all Binary64.isNumeral = true) (hne : cs ≠ []) :
    Silent cs := by
  have hplain : cs.all (fun c => isMute c && !c.isWhitespace) = true := Binary64.all_of_isNumeral (by decide) h
  refine silent_of_mute (calm_of_plain (isPlain_of_isNumeral h)).1 hne fun c hc => ?_
  rcases mem_outside hc with rfl | hc
  · decide
  · simpa using List.all_eq_true.mp hplain c hc

/-! ### Quoted texts -/

/-- Nothing of a quoted text is outside its quotes if the quotes in it are closed by others. -/
theorem silent_enclosed {quote : Char} (hquote : quote = '\'' ∨ quote = '"') {body : List Char}
    (hopen : quoteAfter (some quote) body = some quote) (h : ∀ c ∈ outside (some quote) body, c = '\'') :
    Silent (quote :: body ++ [quote]) := by
  have hbegin : openQuote none quote = some quote ∧ mask none quote = '\'' := by
    rcases hquote with rfl | rfl <;> decide
  have hend : openQuote (some quote) quote = none := if_pos rfl
  have houtside : outside none (quote :: body ++ [quote]) = '\'' :: (outside (some quote) body ++ ['\'']) := by
    rw [List.cons_append, outside, outside_append, hbegin.1, hbegin.2, hopen]
    rfl
  refine silent_of_mute ?_ (List.cons_ne_nil _ _) fun c hc => ?_
  · rw [List.cons_append, quoteAfter, List.foldl_cons, hbegin.1, ← quoteAfter, quoteAfter_append, hopen]
    exact hend
  · have hmask : c = '\'' := by
      rw [houtside] at hc
      simp only [List.mem_cons, List.mem_append, List.not_mem_nil, or_false] at hc
      rcases hc with rfl | hc | rfl
      · rfl
      · exact h c hc
      · rfl
    rw [hmask]
    decide

theorem outside_double (cs : List Char) : ∀ c ∈ outside (some '\'') (Text.double '\'' cs), c = '\'' := by
  induction cs with
  | nil => simp [Text.double, outside]
  | cons d cs ih =>
    by_cases hd : d = '\''
    · rw [hd, Text.double_cons_self]
      simpa [outside, mask, openQuote] using ih
    · rw [Text.double_cons_of_ne hd]
      simpa [outside, mask, openQuote, hd] using ih

theorem outside_doubled {cs : List Char} (h : Name.Doubled cs) :
    ∀ c ∈ outside (some Name.quoteMark) cs, c = '\'' := by
  induction h with
  | nil => simp [outside]
  | other hc _ ih => simpa [outside, mask, openQuote, hc] using ih
  | pair _ ih => simpa [outside, mask, openQuote, Name.quoteMark] using ih

theorem silent_of_isIdentifier {cs : List Char} (h : Name.IsIdentifier cs) : Silent cs := by
  cases h with
  | star => decide
  | quoted hbody => exact silent_enclosed (.inr rfl) (scan_doubled hbody).1 (outside_doubled hbody)

end Words

end SqlBuilder
