import SqlBuilder.Number.Shortest
import SqlBuilder.Text.Quoted
import SqlBuilder.Value

/-!
The text of a value: as a literal, the way it stands inside a list, and as it is shown by itself.
-/

namespace SqlBuilder.Value

def intText (n : Int) : String :=
  String.ofList ((if n < 0 then ['-'] else []) ++ Binary64.natText n.natAbs)

def joinTexts (parts : List String) : String :=
  String.intercalate ", " parts

mutual

/-- Collections write their members as literals; a tuple of one member keeps a comma. -/
def written : Value → String
  | .null => "None"
  | .bool b => if b then "True" else "False"
  | .int n => intText n
  | .float x => x.text
  | .text s => Text.quoted s
  | .bytes bs => Text.quotedBytes bs
  | .list xs => "[" ++ joinTexts (writtenEach xs) ++ "]"
  | .tuple xs => "(" ++ joinTexts (writtenEach xs) ++ (if xs.length = 1 then ",)" else ")")
  | .dict entries => "\x7b" ++ joinTexts (writtenEntries entries) ++ "\x7d"
  | .raw sql => "Raw(sql=" ++ Text.quoted sql ++ ")"
termination_by structural x => x

def writtenEach : List Value → List String
  | [] => []
  | x :: xs => written x :: writtenEach xs
termination_by structural xs => xs

def writtenEntries : List (Value × Value) → List String
  | [] => []
  | entry :: rest => writtenEntry entry :: writtenEntries rest
termination_by structural xs => xs

def writtenEntry : Value × Value → String
  | (key, value) => written key ++ ": " ++ written value
termination_by structural x => x

end

/-- A text is shown without quotes and a fragment of SQL as it is. -/
def shown : Value → String
  | .text s => s
  | .raw sql => sql
  | x => x.written

end SqlBuilder.Value
