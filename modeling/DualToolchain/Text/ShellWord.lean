/-! Words of a shell command line: quoting, and splitting a line back into its words. -/

namespace DualToolchain.ShellWord

def isBare (c : Char) : Bool :=
  c.isAlphanum || "_@%+=:,./-".toList.contains c

/-- A single quote leaves the single quotes and stands between double quotes. -/
def escape (c : Char) : List Char :=
  if c = '\'' then ['\'', '"', '\'', '"', '\''] else [c]

/-- One word as a shell reads it back: bare if it may be, else between single quotes. -/
def quoteChars (cs : List Char) : List Char :=
  if !cs.isEmpty && cs.all isBare then cs else '\'' :: cs.flatMap escape ++ ['\'']

def joinChars (words : List (List Char)) : List Char :=
  List.intercalate [' '] (words.map quoteChars)

def join (words : List String) : String :=
  String.ofList (joinChars (words.map String.toList))

/-! ### Splitting -/

/-- Where a reader stands: between words, or in a word after reading part of it. -/
inductive Place where
  | between
  | bare (word : List Char)
  | single (word : List Char)
  | double (word : List Char)

def isSeparator (c : Char) : Bool :=
  " \t\n".toList.contains c

/-- What a shell escapes or expands, in double quotes too. -/
def isExpansion (c : Char) : Bool :=
  "$`\\".toList.contains c

/-- What stands for an operator outside quotes. -/
def isOperator (c : Char) : Bool :=
  "|&;<>()".toList.contains c

/-- The words of the rest of a line. Lines that are more than words are not read: a quote that is
not closed, an expansion or an operator gives none. -/
def splitFrom : Place → List Char → Option (List (List Char))
  | .between, [] => some []
  | .bare w, [] => some [w]
  | .single _, [] => none
  | .double _, [] => none
  | .between, c :: rest =>
    if isSeparator c then splitFrom .between rest
    else if c = '\'' then splitFrom (.single []) rest
    else if c = '"' then splitFrom (.double []) rest
    else if isExpansion c || isOperator c then none
    else splitFrom (.bare [c]) rest
  | .bare w, c :: rest =>
    if isSeparator c then (splitFrom .between rest).map (w :: ·)
    else if c = '\'' then splitFrom (.single w) rest
    else if c = '"' then splitFrom (.double w) rest
    else if isExpansion c || isOperator c then none
    else splitFrom (.bare (w ++ [c])) rest
  | .single w, c :: rest =>
    if c = '\'' then splitFrom (.bare w) rest else splitFrom (.single (w ++ [c])) rest
  | .double w, c :: rest =>
    if c = '"' then splitFrom (.bare w) rest
    else if isExpansion c then none
    else splitFrom (.double (w ++ [c])) rest

/-- The words of a line: blanks separate them, quoted text is literal. -/
def split? (line : String) : Option (List String) :=
  (splitFrom .between line.toList).map (·.map String.ofList)

end DualToolchain.ShellWord
