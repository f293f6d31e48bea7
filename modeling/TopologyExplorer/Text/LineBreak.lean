/-!
# Line breaks

A text is cut into lines at each line-breaking character; a carriage return with a line feed
behind it is one break. A break ends a line, so a text that ends in one has no empty last line.
-/

namespace TopologyExplorer.LineBreak

/-- Line feed, line tabulation, form feed, carriage return, the separators of files, groups and
records, next line, and the line and paragraph separators. -/
def breaks : List Char :=
  ['\n', '\x0b', '\x0c', '\r', '\x1c', '\x1d', '\x1e', '\u0085', '\u2028', '\u2029']

def isBreak (c : Char) : Bool := breaks.contains c

/-- Cuts a text whose current line, read so far, is given last character first. -/
def cut : List Char → List Char → List (List Char)
  | [], [] => []
  | line, [] => [line.reverse]
  | line, '\r' :: '\n' :: cs => line.reverse :: cut [] cs
  | line, c :: cs => if isBreak c then line.reverse :: cut [] cs else cut (c :: line) cs

def lines (cs : List Char) : List (List Char) := cut [] cs

end TopologyExplorer.LineBreak
