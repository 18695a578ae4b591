import SqlBuilder.Name.Quoting
import SqlBuilder.Text.Blank

/-!
References to tables and columns: atoms separated by dots, with an alias after the word `as` or
without one.
-/

namespace SqlBuilder.Name

/-- Atoms between the dots; a dot inside quotes does not separate. -/
def splitAtoms (quoted : Bool) : List Char → List (List Char)
  | [] => [[]]
  | c :: rest =>
    let quoted := if c = quoteMark then !quoted else quoted
    if c = '.' ∧ quoted = false then [] :: splitAtoms quoted rest
    else
      match splitAtoms quoted rest with
      | [] => [[c]]
      | atom :: atoms => (c :: atom) :: atoms

def atoms (reference : String) : List String :=
  (splitAtoms false reference.toList).map String.ofList

/-- The letters of the word `as`: either case, and the long s. -/
def isAliasWord (a s : Char) : Bool :=
  (a == 'a' || a == 'A') && (s == 's' || s == 'S' || s == 'ſ')

/-- What follows a separator that starts here: blanks, the word `as`, and blanks again. -/
def afterSeparator? (cs : List Char) : Option (List Char) :=
  if cs.head?.any Text.isBlank then
    match cs.dropWhile Text.isBlank with
    | a :: s :: blank :: rest =>
      if isAliasWord a s && Text.isBlank blank then some (rest.dropWhile Text.isBlank) else none
    | _ => none
  else none

/-- Cuts at the first separator between a reference and its alias. -/
def cutAlias? : List Char → Option (List Char × List Char)
  | [] => none
  | c :: rest =>
    match afterSeparator? (c :: rest) with
    | some after => some ([], after)
    | none => (cutAlias? rest).map fun (before, after) => (c :: before, after)

structure Reference where
  atoms : List (List Char)
  aliasName : Option (List Char)

def Reference.parse (cs : List Char) : Reference :=
  let cs := Text.trim cs
  match cutAlias? cs with
  | some (before, after) =>
    { atoms := splitAtoms false (Text.trim before), aliasName := some (Text.trim after) }
  | none => { atoms := splitAtoms false cs, aliasName := none }

end SqlBuilder.Name
