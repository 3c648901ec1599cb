import ApiDocs.Text.Blank

/-!
# Runs of characters

Taking the characters of one class off the start of a text. Each function gives what it took and
what is left, or nothing if there is no such character at the start.
-/

set_option autoImplicit false

namespace ApiDocs.Text

/-- The characters of a class at the start of a text, at least one, and what follows. -/
def takeWhile1? (p : Char → Bool) (s : List Char) : Option (List Char × List Char) :=
  let run := s.takeWhile p
  if run = [] then none else some (run, s.dropWhile p)

/-- The characters at the start of a text up to a blank, at least one, and what follows. -/
def takeWord? (s : List Char) : Option (List Char × List Char) :=
  takeWhile1? (fun c => !isBlank c) s

/-- What follows the blanks at the start of a text, if there is at least one. -/
def dropBlanks1? (s : List Char) : Option (List Char) :=
  (takeWhile1? isBlank s).map Prod.snd

end ApiDocs.Text
