/-!
# Blanks, comments and line ends

What stands between the words of a document. A carriage return counts only in front of a line feed,
and `joinLineEnds` takes those away before anything else is read.
-/

namespace VoiceBridge.Toml

/-- A way to read something from the front of a text: what is read, and the rest. -/
abbrev Reader (α : Type) := List Char → Option (α × List Char)

/-- A line feed may have a carriage return in front of it. -/
def joinLineEnds : List Char → List Char
  | '\r' :: '\n' :: rest => '\n' :: joinLineEnds rest
  | c :: rest => c :: joinLineEnds rest
  | [] => []

def isBlank (c : Char) : Bool := c == ' ' || c == '\t'

/-- A character that may stand in a comment or between quotes: no control but the tab. -/
def isPrintable (c : Char) : Bool := c == '\t' || (0x20 ≤ c.toNat && c.toNat != 0x7F)

def skipBlank (s : List Char) : List Char := s.dropWhile isBlank

/-- The rest behind the end of a line, in front of which blanks and a comment may stand. -/
def lineEnd? (s : List Char) : Option (List Char) :=
  let s := match skipBlank s with
    | '#' :: rest => rest.dropWhile isPrintable
    | s => s
  match s with
  | [] => some []
  | '\n' :: rest => some rest
  | _ => none

/-- Skip blanks, line ends and comments, starting in a comment or outside one. -/
def skipLinesFrom (inComment : Bool) : List Char → List Char
  | [] => []
  | c :: rest =>
    if c == '\n' then skipLinesFrom false rest
    else if inComment then if isPrintable c then skipLinesFrom true rest else c :: rest
    else if isBlank c then skipLinesFrom false rest
    else if c == '#' then skipLinesFrom true rest
    else c :: rest

/-- Skip blanks, line ends and comments. -/
def skipLines (s : List Char) : List Char := skipLinesFrom false s

end VoiceBridge.Toml
