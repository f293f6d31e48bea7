import TopologyExplorer.Text.DecimalText

/-!
# Tokens of a query text

A query text is a row of words, quoted names, quoted texts, numbers and marks, with blanks and
comments between them. It ends with its characters or at a semicolon. Behind the semicolon nothing
may stand but blanks and comments. A quote inside of quotes is written twice.
-/

namespace TopologyExplorer.Selection

inductive Token where
  /-- A word without quotes; case does not count in it. -/
  | word (text : String)
  /-- A name in quotes. -/
  | quoted (text : String)
  | literal (text : String)
  | number (value : Nat)
  | mark (text : String)
  deriving DecidableEq, Repr

namespace Token

/-- Starts a run of blanks, and may stand behind the query. -/
def isBlank (c : Char) : Bool := [' ', '\t', '\n', '\x0c', '\r'].contains c

/-- Goes on in a run of blanks. -/
def isBlankInside (c : Char) : Bool := isBlank c || c = '\x0b'

/-- A mark of the encoding, which is a blank of its own. -/
def isEncodingMark (c : Char) : Bool := c = '\uFEFF'

def startsWord (c : Char) : Bool := c.isAlpha || c = '_' || 128 ≤ c.toNat

def isWordChar (c : Char) : Bool := startsWord c || c.isDigit || c = '$'

/-- What follows a comment that ends with a star and a slash; nothing if it does not end. -/
def afterComment : List Char → List Char
  | '*' :: '/' :: cs => cs
  | _ :: cs => afterComment cs
  | [] => []

/-- Reads on to the quote that ends a text: the text and what follows it. -/
def quotation? (quote : Char) : List Char → Option (List Char × List Char)
  | c :: d :: cs =>
    if c ≠ quote then (quotation? quote (d :: cs)).map fun (text, rest) => (c :: text, rest)
    else if d = quote then (quotation? quote cs).map fun (text, rest) => (quote :: text, rest)
    else some ([], d :: cs)
  | [c] => if c = quote then some ([], []) else none
  | [] => none

/-- The marks of two characters. -/
def doubleMarks : List (Char × Char) := [('=', '='), ('<', '>'), ('!', '='), ('<', '='), ('>', '=')]

def singleMarks : List Char := ['(', ')', ',', '.', '=', '<', '>', '*', '-', '+']

/-- The mark that characters begin with, and what follows it. -/
def mark? : List Char → Option (Token × List Char)
  | c :: d :: cs =>
    if doubleMarks.contains (c, d) then some (.mark (String.ofList [c, d]), cs)
    else if singleMarks.contains c then some (.mark (String.singleton c), d :: cs)
    else none
  | [c] => if singleMarks.contains c then some (.mark (String.singleton c), []) else none
  | [] => none

/-- The token that characters begin with, and what follows it. -/
def first? : List Char → Option (Token × List Char)
  | [] => none
  | c :: cs =>
    let text := fun (token : String → Token) (quote : Char) =>
      (quotation? quote cs).map fun (text, rest) => (token (String.ofList text), rest)
    if c = '\'' then text .literal c
    else if c = '\x22' ∨ c = '\x60' then text .quoted c
    else if c = '[' then
      let name := cs.takeWhile (· ≠ ']')
      if name.length < cs.length then
        some (.quoted (String.ofList name), cs.drop (name.length + 1))
      else none
    else if startsWord c then
      let rest := cs.dropWhile isWordChar
      if c.toLower = 'x' ∧ rest.length = cs.length ∧ rest.head? = some '\'' then none
      else some (.word (String.ofList (c :: cs.takeWhile isWordChar)), rest)
    else if c.isDigit then
      let digits := c :: cs.takeWhile Char.isDigit
      let rest := cs.dropWhile Char.isDigit
      if rest.head?.any fun d => isWordChar d ∨ d = '.' then none
      else some (.number (digits.foldl (fun n d => 10 * n + (d.toNat - '0'.toNat)) 0), rest)
    else mark? (c :: cs)

/-- A comment opens here: what follows its beginning. -/
def comment? : List Char → Option (List Char)
  | '-' :: '-' :: cs => some (cs.dropWhile (· ≠ '\n'))
  | '/' :: '*' :: c :: cs => some (afterComment (c :: cs))
  | _ => none

/-- The blank or the comment that characters begin with is left out. -/
def afterBlank? (cs : List Char) : Option (List Char) :=
  match cs with
  | [] => none
  | c :: rest =>
    if isBlank c then some (rest.dropWhile isBlankInside)
    else if isEncodingMark c then some rest
    else comment? cs

/-- The tokens up to a semicolon, and what follows it. The count is at least that of characters. -/
def scan? : Nat → List Char → Option (List Token × List Char)
  | _, [] => some ([], [])
  | 0, _ => none
  | n + 1, c :: cs =>
    if c = ';' then some ([], cs)
    else
      match afterBlank? (c :: cs) with
      | some rest => scan? n rest
      | none => do
        let (token, rest) ← first? (c :: cs)
        let (tokens, rest) ← scan? n rest
        return (token :: tokens, rest)

/-- Only blanks and comments are left. The count is at least that of characters. -/
def isSpent : Nat → List Char → Bool
  | _, [] => true
  | 0, _ => false
  | n + 1, c :: cs =>
    if isBlank c then isSpent n cs
    else
      match c, cs with
      | '-', '-' :: cs => isSpent n (cs.dropWhile (· ≠ '\n'))
      | '/', '*' :: cs => isSpent n (afterComment cs)
      | _, _ => false

def ofText? (s : String) : Option (List Token) := do
  let cs := s.toList
  if cs.contains '\x00' then none
  let (tokens, rest) ← scan? cs.length cs
  if isSpent rest.length rest then some tokens else none

end Token

end TopologyExplorer.Selection
