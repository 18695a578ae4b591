/-!
Cutting texts at separators and replacing characters, over lists of characters.
-/

namespace SqlBuilder.Text

/-- The parts between the separators, at least one. -/
def splitAt (separator : Char) : List Char → List (List Char)
  | [] => [[]]
  | c :: rest =>
    if c = separator then [] :: splitAt separator rest
    else
      match splitAt separator rest with
      | [] => [[c]]
      | part :: parts => (c :: part) :: parts

/-- What stands before the first separator, and what stands after it if there is one. -/
def cutAt (separator : Char) (cs : List Char) : List Char × Option (List Char) :=
  match cs.dropWhile (· != separator) with
  | [] => (cs, none)
  | _ :: after => (cs.takeWhile (· != separator), some after)

/-- What stands before the last separator if there is one, and what stands after it. -/
def cutAtLast (separator : Char) (cs : List Char) : Option (List Char) × List Char :=
  match cutAt separator cs.reverse with
  | (_, none) => (none, cs)
  | (after, some before) => (some before.reverse, after.reverse)

/-- Cuts at the first occurrence of the mark. -/
def cutAtMark? (mark : List Char) : List Char → Option (List Char × List Char)
  | [] => if mark = [] then some ([], []) else none
  | c :: rest =>
    if mark.isPrefixOf (c :: rest) then some ([], (c :: rest).drop mark.length)
    else (cutAtMark? mark rest).map fun (before, after) => (c :: before, after)

def occursIn {α : Type} [BEq α] (part : List α) : List α → Bool
  | [] => part.isEmpty
  | c :: rest => part.isPrefixOf (c :: rest) || occursIn part rest

/-- Every occurrence of the character is written twice. -/
def double (c : Char) (cs : List Char) : List Char :=
  cs.flatMap fun d => if d = c then [c, c] else [d]

/-- Every pair of adjacent occurrences, from the left, becomes one. -/
def undouble (c : Char) : List Char → List Char
  | a :: b :: rest =>
    if a = c ∧ b = c then c :: undouble c rest else a :: undouble c (b :: rest)
  | cs => cs

end SqlBuilder.Text
