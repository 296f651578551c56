import HostSurvey.Text.Lines

/-!
# Lines of terminal reports

Reports are framed: a heading opens a frame, and every line in it begins with a
bar. What stands out is in colour.
-/

namespace HostSurvey.Report

inductive Colour where
  | red | blue | yellow
  deriving DecidableEq, Repr

/-- The number of a colour in an escape sequence; yellow is one of the 256 fixed colours. -/
def Colour.code : Colour → String
  | .red => "31"
  | .blue => "34"
  | .yellow => "38;5;226"

def Colour.paint (c : Colour) (s : String) : String :=
  "\x1b[" ++ c.code ++ "m" ++ s ++ "\x1b[0m"

def bar (s : String) : String := "┃" ++ s

/-- A line in a frame, apart from the bar by a space. -/
def framed (s : String) : String := bar (" " ++ s)

/-- An empty line and the top of a frame. -/
def heading (title : String) : List String := ["", "┏━━━━ " ++ title]

/-- A text with blanks behind it, at least `width` characters in all. -/
def padded (width : Nat) (s : String) : String :=
  s ++ String.ofList (List.replicate (width - s.length) ' ')

/-- A label and a value behind a colon. -/
def labelled (label value : String) : String := framed (padded 16 label ++ " : " ++ value)

/-- Every line ended. -/
def joined (lines : List String) : String := String.join (lines.map (· ++ "\n"))

/-- A line without the carriage return that ends it. -/
def dropReturn (line : List Char) : List Char :=
  if line.getLast? = some '\r' then line.dropLast else line

/-- The lines of a text whose lines are all ended. -/
def textLines (s : String) : List String :=
  (Text.linesAt '\n' s.toList).map fun l => String.ofList (dropReturn l)

end HostSurvey.Report
