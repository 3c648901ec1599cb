import ApiDocs.Path

/-!
# Errors

What can go wrong in a run, as causes, and the one place where each cause gets its wording.
-/

set_option autoImplicit false

namespace ApiDocs

/-- Why a setting or a name in the sources cannot be used. -/
inductive ConfigurationIssue
  /-- A group key that holds nothing but blanks and slashes. -/
  | emptyGroupKey (raw : String)
  /-- A group key with a segment that is empty or leads to another directory. -/
  | unsafeGroupKey (raw : String)
  /-- A name that is no HTTP method. -/
  | unknownMethod (name : String)
  /-- A name that is no output format. -/
  | unknownFormat (name : String)
  /-- No source roots were given. -/
  | noSearchPath
  /-- The environment names no source roots. -/
  | searchPathUnset
  /-- The pattern for controllers is not a regular expression. -/
  | invalidPattern
  /-- Anything else, in words. -/
  | other (text : String)
deriving DecidableEq, Repr

namespace ConfigurationIssue

/-- The issue in words. -/
def message : ConfigurationIssue → String
  | emptyGroupKey raw => s!"API group key '{raw}' is empty after trimming"
  | unsafeGroupKey raw => s!"API group key '{raw}' is not a safe path"
  | unknownMethod name => s!"unknown HTTP method '{name}'"
  | unknownFormat name =>
    s!"invalid format '{name}', must be one of go|swagger|asciidoc|markdown|confluence"
  | noSearchPath => "the source search path is empty"
  | searchPathUnset => "please, set $GOPATH environment variable"
  | invalidPattern => "the controllerClass argument is not a valid regular expression"
  | other text => text

end ConfigurationIssue

/-- Why the file system refused a request. -/
inductive FileIssue
  /-- The directory to create is there already, or a file has its name. -/
  | alreadyExists
  /-- A step that has to be a directory is a file. -/
  | notADirectory
  /-- The file to read or write is a directory. -/
  | isADirectory
  /-- A step does not exist. -/
  | notFound
  /-- A name or a path is longer than the file system allows. -/
  | nameTooLong
  /-- The path holds the null character. -/
  | nullCharacter
  /-- The bytes of a text file are not UTF-8. -/
  | notText
  /-- The directory of a package does not exist. -/
  | noPackageDirectory
  /-- Anything else, in words. -/
  | other (text : String)
deriving DecidableEq, Repr

namespace FileIssue

/-- The issue in words. -/
def message : FileIssue → String
  | alreadyExists => "File exists (os error 17)"
  | notADirectory => "Not a directory (os error 20)"
  | isADirectory => "Is a directory (os error 21)"
  | notFound => "No such file or directory (os error 2)"
  | nameTooLong => "File name too long (os error 36)"
  | nullCharacter => "file name contained an unexpected NUL byte"
  | notText => "stream did not contain valid UTF-8"
  | noPackageDirectory => "package directory not found"
  | other text => text

end FileIssue

/-- What ends a run. -/
inductive Error
  /-- A setting cannot be used. -/
  | configuration (issue : ConfigurationIssue)
  /-- A file or package lies under no source root; `attempted` is the last place tried. -/
  | resolution (attempted : Path)
  /-- A value has no JSON form. -/
  | serialization (context source : String)
  /-- A file could not be read or written. -/
  | io (path : Path) (issue : FileIssue)
  /-- A source file makes no sense. -/
  | parse (path : Path) (message : String)
deriving DecidableEq, Repr

namespace Error

/-- The error in words. -/
def message : Error → String
  | configuration issue => s!"configuration error: {issue.message}"
  | resolution attempted => s!"could not find apifile {attempted.text} to parse"
  | serialization context source => s!"can not serialise {context} to JSON: {source}"
  | io path issue => s!"I/O error on {path.text}: {issue.message}"
  | parse path text => s!"parse error in {path.text}: {text}"

/-- The words of the cause below an error, where it has one. -/
def source? : Error → Option String
  | serialization _ source => some source
  | io _ issue => some issue.message
  | _ => none

end Error

end ApiDocs
