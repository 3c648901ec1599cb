import ApiDocs.GoSource.Declarations
import ApiDocs.Text.Runs
import ApiDocs.Text.Word

/-!
# Heads of declarations

The lines that open a declaration: the package clause, the head of a function or method, and the
head of a struct type. Each is recognised by its start; what follows on the line does not matter.
-/

set_option autoImplicit false

namespace ApiDocs.GoSource

open Text (dropBlanks1? isBlank isWord takeWhile1?)

/-- Whether a character can occur in the name of a type with its package. -/
def isTypeName (c : Char) : Bool :=
  isWord c || c == '.'

/-- The package that a line names: `package`, blanks and a word. -/
def package? (line : List Char) : Option (List Char) := do
  let rest ← dropBlanks1? (← "package".toList.isPrefixOf? line)
  let (name, _) ← takeWhile1? isWord rest
  return name

/-- A text without the type parameters in brackets at its start, if there are any. -/
def dropTypeParameters (s : List Char) : List Char :=
  match s with
  | '[' :: rest =>
    match rest.dropWhile (· ≠ ']') with
    | ']' :: after => after
    | _ => s
  | _ => s

/-- The type of a receiver up to the closing parenthesis, and what follows. A star before the name
makes the receiver a pointer. -/
def takeReceiverType? (s : List Char) : Option (Receiver × List Char) := do
  let (isPointer, rest) :=
    match s with
    | '*' :: rest => (true, rest)
    | _ => (false, s)
  let (type, rest) ← takeWhile1? isTypeName (rest.dropWhile isBlank)
  let rest ← [')'].isPrefixOf? ((dropTypeParameters rest).dropWhile isBlank)
  return (⟨String.ofList type, isPointer⟩, rest)

/-- The receiver after an opening parenthesis: a name and a type, or a type alone. -/
def takeReceiver? (s : List Char) : Option (Receiver × List Char) :=
  let named := do
    let (_, rest) ← takeWhile1? isWord s
    takeReceiverType? (← dropBlanks1? rest)
  named.or (takeReceiverType? s)

/-- The name and the receiver that the head of a function gives. -/
def functionHead? (line : List Char) : Option (String × Option Receiver) := do
  let rest ← "func".toList.isPrefixOf? line
  match rest.dropWhile isBlank with
  | '(' :: rest =>
    let (receiver, rest) ← takeReceiver? (rest.dropWhile isBlank)
    let (name, _) ← takeWhile1? isWord (rest.dropWhile isBlank)
    return (String.ofList name, some receiver)
  | rest =>
    let (name, _) ← takeWhile1? isWord rest
    return (String.ofList name, none)

/-- The name that the head of a struct gives, and whether the struct closes right after its opening
brace. -/
def structHead? (line : List Char) : Option (String × Bool) := do
  let rest ← dropBlanks1? (← "type".toList.isPrefixOf? line)
  let (name, rest) ← takeWhile1? isWord rest
  let rest ← "struct".toList.isPrefixOf? (← dropBlanks1? rest)
  let rest ← ['{'].isPrefixOf? (rest.dropWhile isBlank)
  return (String.ofList name, (rest.dropWhile isBlank).head? == some '}')

end ApiDocs.GoSource
