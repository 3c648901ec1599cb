/-!
# Command line arguments

The options and flags of the program, and how words of a command line are read as these. An option
takes the rest of its word or the next word as its value, unless that word is itself an option or a
flag; each option and flag may be given once.
-/

set_option autoImplicit false

namespace ApiDocs.CommandLine

/-- What a command line gives. -/
structure Arguments where
  apiPackage : Option String := none
  mainApiFile : Option String := none
  controllerClass : Option String := none
  format : String := "go"
  output : String := "."
  firstMatch : Bool := false
  verbose : Bool := false
deriving DecidableEq, Repr, Inhabited

/-- Why a command line is not run. -/
inductive UsageIssue
  /-- The user asks for help. -/
  | displayHelp
  /-- The user asks for the version. -/
  | displayVersion
  /-- A word is no option, no flag and no value. -/
  | unknownArgument
  /-- An option has no value, or one that it does not take. -/
  | invalidValue
  /-- An option or flag is given twice. -/
  | argumentConflict
  /-- A flag has a value. -/
  | tooManyValues
deriving DecidableEq, Repr

/-- An option, which has a value. -/
inductive OptionName
  | apiPackage
  | mainApiFile
  | controllerClass
  | format
  | output
deriving DecidableEq, Repr

/-- A flag, which has none. -/
inductive FlagName
  | firstMatch
  | verbose
  | help
  | version
deriving DecidableEq, Repr

/-- What a name of the command line stands for. -/
inductive Name
  | option (name : OptionName)
  | flag (name : FlagName)
deriving DecidableEq, Repr

/-- What a long name stands for. -/
def Name.ofLong? : String → Option Name
  | "apiPackage" | "api-package" => some (.option .apiPackage)
  | "mainApiFile" | "main-api-file" => some (.option .mainApiFile)
  | "controllerClass" | "controller-class" => some (.option .controllerClass)
  | "format" => some (.option .format)
  | "output" => some (.option .output)
  | "first-match" => some (.flag .firstMatch)
  | "verbose" => some (.flag .verbose)
  | "help" => some (.flag .help)
  | "version" => some (.flag .version)
  | _ => none

/-- What a short name stands for. -/
def Name.ofShort? : Char → Option Name
  | 'f' => some (.option .format)
  | 'o' => some (.option .output)
  | 'v' => some (.flag .verbose)
  | 'h' => some (.flag .help)
  | 'V' => some (.flag .version)
  | _ => none

/-- The values read so far. -/
structure Reading where
  options : List (OptionName × String) := []
  flags : List FlagName := []
  /-- An option that was met last, with its value if that was met. It counts only when the next
  option or flag is met, or the end. -/
  pending : Option (OptionName × Option String) := none
deriving DecidableEq, Repr

namespace Reading

/-- Count an option. -/
def count (r : Reading) (name : OptionName) (value : Option String) : Except UsageIssue Reading :=
  match value with
  | none => .error .invalidValue
  | some value =>
    if r.options.any fun o => o.1 == name then .error .argumentConflict
    else if name = .output ∧ value = "" then .error .invalidValue
    else .ok { r with options := (name, value) :: r.options }

/-- Count the option that is pending. -/
def settle (r : Reading) : Except UsageIssue Reading :=
  match r.pending with
  | none => .ok r
  | some (name, value) => { r with pending := none }.count name value

/-- Meet an option, with its value if its word holds one. -/
def meetOption (r : Reading) (name : OptionName) (value : Option String) :
    Except UsageIssue Reading := do
  let r ← r.settle
  match value with
  | some value => r.count name (some value)
  | none => return { r with pending := some (name, none) }

/-- Meet a flag. -/
def meetFlag (r : Reading) (name : FlagName) : Except UsageIssue Reading := do
  let r ← r.settle
  match name with
  | .help => throw .displayHelp
  | .version => throw .displayVersion
  | _ =>
    if name ∈ r.flags then throw .argumentConflict
    else return { r with flags := name :: r.flags }

/-- Meet a word that starts with two dashes, without them. -/
def meetLong (r : Reading) (word : List Char) : Except UsageIssue Reading :=
  let name := String.ofList (word.takeWhile (· ≠ '='))
  let value := match word.dropWhile (· ≠ '=') with
    | [] => none
    | _ :: value => some (String.ofList value)
  match Name.ofLong? name, value with
  | none, _ => .error .unknownArgument
  | some (.option name), value => r.meetOption name value
  | some (.flag _), some _ => .error .tooManyValues
  | some (.flag name), none => r.meetFlag name

/-- The value that the rest of a word is for an option with a short name, if it is one. -/
def attachedValue : List Char → Option String
  | [] => none
  | '=' :: value => some (String.ofList value)
  | value => some (String.ofList value)

/-- Meet a word that starts with one dash, without it: flags, and maybe an option at the end. -/
def meetShort (r : Reading) : List Char → Except UsageIssue Reading
  | [] => .ok r
  | c :: rest =>
    match Name.ofShort? c with
    | none => .error .unknownArgument
    | some (.option name) => r.meetOption name (attachedValue rest)
    | some (.flag name) =>
      match r.meetFlag name with
      | .ok r => r.meetShort rest
      | .error e => .error e

/-- Meet a word that is no option and no flag. It has to be a value that an option waits for. -/
def meetValue (r : Reading) (word : String) : Except UsageIssue Reading :=
  match r.pending with
  | some (name, none) => .ok { r with pending := some (name, some word) }
  | _ => .error .unknownArgument

/-- Meet a word. -/
def meet (r : Reading) (word : String) : Except UsageIssue Reading :=
  match word.toList with
  | '-' :: '-' :: rest => r.meetLong rest
  | '-' :: c :: rest => r.meetShort (c :: rest)
  | _ => r.meetValue word

/-- Meet all words. Two dashes that stand alone end the options, and nothing may follow. -/
def meetAll (r : Reading) : List String → Except UsageIssue Reading
  | [] => r.settle
  | "--" :: rest => if rest = [] then r.settle else .error .unknownArgument
  | word :: rest =>
    match r.meet word with
    | .ok r => r.meetAll rest
    | .error e => .error e

/-- The value of an option. -/
def value? (r : Reading) (name : OptionName) : Option String :=
  r.options.lookup name

/-- What was read, with the defaults for what was not given. -/
def arguments (r : Reading) : Arguments where
  apiPackage := r.value? .apiPackage
  mainApiFile := r.value? .mainApiFile
  controllerClass := r.value? .controllerClass
  format := (r.value? .format).getD "go"
  output := (r.value? .output).getD "."
  firstMatch := r.flags.contains .firstMatch
  verbose := r.flags.contains .verbose

end Reading

/-- The arguments that the words of a command line give. -/
def Arguments.parse (words : List String) : Except UsageIssue Arguments :=
  (Reading.meetAll {} words).map Reading.arguments

end ApiDocs.CommandLine
