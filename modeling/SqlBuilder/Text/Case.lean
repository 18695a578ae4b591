import SqlBuilder.Text.CaseTable

/-!
Upper and lower case with the full mappings of Unicode: one character may become several, and a capital
sigma at the end of a word becomes the final form of the small letter.
-/

namespace SqlBuilder.Text

def CaseRun.covers (run : CaseRun) (n : Nat) : Bool :=
  run.first ≤ n && n ≤ run.last && (n - run.first) % run.step == 0

/-- An expansion wins over a run; a character in neither maps to itself. -/
def mapCase (expansions : List (Nat × List Nat)) (runs : List CaseRun) (c : Char) : List Char :=
  match expansions.lookup c.toNat with
  | some targets => targets.map Char.ofNat
  | none =>
    match runs.find? (·.covers c.toNat) with
    | some run => [Char.ofNat (c.toNat + run.shift).toNat]
    | none => [c]

def upperChar (c : Char) : List Char :=
  if c.toNat < 128 then [c.toUpper] else mapCase upperExpansions upperRuns c

def lowerChar (c : Char) : List Char :=
  if c.toNat < 128 then [c.toLower] else mapCase lowerExpansions lowerRuns c

/-- Marks, modifiers and the like, which the rule of the final sigma looks past. -/
def isCaseIgnorable (c : Char) : Bool :=
  if c.toNat < 128 then ['\'', '.', ':', '^', '`'].contains c else covers caseIgnorableRanges c

/-- Has case, and is not looked past. -/
def isCased (c : Char) : Bool :=
  if c.toNat < 128 then c.isAlpha else covers casedRanges c

def capitalSigma : Char := 'Σ'

/-- A sigma is final after a cased character, unless another one follows. -/
def lowerSigma (afterCased : Bool) (rest : List Char) : Char :=
  if afterCased && !((rest.dropWhile isCaseIgnorable).head?.any isCased) then 'ς' else 'σ'

/-- `afterCased` tells whether the last character before that is not looked past has case. -/
def lowerFrom (afterCased : Bool) : List Char → List Char
  | [] => []
  | c :: rest =>
    let here := if c = capitalSigma then [lowerSigma afterCased rest] else lowerChar c
    here ++ lowerFrom (if isCaseIgnorable c then afterCased else isCased c) rest

def upperChars (cs : List Char) : List Char :=
  cs.flatMap upperChar

def lowerChars (cs : List Char) : List Char :=
  lowerFrom false cs

def upper (s : String) : String :=
  String.ofList (upperChars s.toList)

def lower (s : String) : String :=
  String.ofList (lowerChars s.toList)

/-- In byte strings only ASCII letters have a case. -/
def changeBytes (change : Char → Char) (bytes : List UInt8) : List UInt8 :=
  bytes.map fun b => if b.toNat < 128 then UInt8.ofNat (change (Char.ofNat b.toNat)).toNat else b

end SqlBuilder.Text
