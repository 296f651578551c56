/-!
# ASCII letters and punctuation

Case is ignored for the letters `A` to `Z` alone; every other character is its
own lower case.
-/

namespace HostSurvey.Text

/-- The lower case of an ASCII capital, any other character unchanged. -/
def lower (c : Char) : Char :=
  if 'A' ≤ c ∧ c ≤ 'Z' then Char.ofNat (c.toNat + 32) else c

def lowered (s : List Char) : List Char := s.map lower

/-- Equal but for the case of ASCII letters. -/
def sameLetters (s t : List Char) : Bool := lowered s == lowered t

def isAsciiDigit (c : Char) : Bool := '0' ≤ c && c ≤ '9'

def isAsciiLetter (c : Char) : Bool := ('a' ≤ c && c ≤ 'z') || ('A' ≤ c && c ≤ 'Z')

/-- A printing ASCII character that is no letter, digit or space. -/
def isPunctuation (c : Char) : Bool :=
  '!' ≤ c && c ≤ '~' && !isAsciiDigit c && !isAsciiLetter c

/-- Without the punctuation at both ends, unless the text ends in a full stop. -/
def tidy (s : List Char) : List Char :=
  if s.getLast? = some '.' then s
  else ((s.dropWhile isPunctuation).reverse.dropWhile isPunctuation).reverse

theorem sameLetters_refl (s : List Char) : sameLetters s s = true := by simp [sameLetters]

theorem sameLetters_comm (s t : List Char) : sameLetters s t = sameLetters t s := by
  simp only [sameLetters, Bool.beq_comm]

end HostSurvey.Text
