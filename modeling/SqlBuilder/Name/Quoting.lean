import SqlBuilder.Text.Split

/-!
Quoted identifiers: double quotes around a body in which every double quote stands twice.
-/

namespace SqlBuilder.Name

def quoteMark : Char := '"'

/-- Starts and ends with a quote. Nothing is asked of what stands between. -/
def isQuotedChars (cs : List Char) : Bool :=
  2 ≤ cs.length && cs.head? == some quoteMark && cs.getLast? == some quoteMark

def body (cs : List Char) : List Char :=
  (cs.drop 1).dropLast

def unquoteChars (cs : List Char) : List Char :=
  if isQuotedChars cs then Text.undouble quoteMark (body cs) else cs

def encloseChars (cs : List Char) : List Char :=
  quoteMark :: Text.double quoteMark cs ++ [quoteMark]

def star : List Char := ['*']

/-- The star stands for all columns and is no name; what is quoted already stays as it is. -/
def quoteChars (cs : List Char) : List Char :=
  if cs = star ∨ isQuotedChars cs then cs else encloseChars cs

def isQuoted (name : String) : Bool :=
  isQuotedChars name.toList

def unquote (name : String) : String :=
  String.ofList (unquoteChars name.toList)

def quote (name : String) : String :=
  String.ofList (quoteChars name.toList)

end SqlBuilder.Name
