import ApiDocs.Error
import ApiDocs.OutputFormat

/-!
# Notices

What a run reports on its way: warnings about sources it passes over, and progress. Nothing in a
run depends on them.
-/

set_option autoImplicit false

namespace ApiDocs

/-- How much a notice matters. -/
inductive Notice.Level
  | warning
  | info
deriving DecidableEq, Repr

/-- Something that a run reports. -/
inductive Notice
  /-- A `@SubApi` annotation without a path in brackets. -/
  | malformedSubApi (value : String)
  /-- A `@Param` annotation without its four words. -/
  | malformedParam (value : String)
  /-- A `@Success` or `@Failure` annotation without a code; `tag` is in lower case. -/
  | malformedResponse (tag value : String)
  /-- A `@Router` annotation without a path or with an unknown method. -/
  | malformedRouter (value : String)
  /-- A named type without a declaration. -/
  | unresolvedType (name : String)
  /-- A function whose group is unknown. -/
  | ungrouped (function : String) (file : Path) (route : String)
  /-- A listed group without operations. -/
  | droppedReference (path : String)
  /-- A source file that cannot be read. -/
  | unreadable (file : Path) (error : Error)
  /-- The general annotations of a file are read. -/
  | readingGeneral (file : Path)
  /-- The number of source files of the package. -/
  | foundFiles (count : Nat)
  /-- The number of groups of the package. -/
  | foundGroups (count : Nat)
  /-- The sources are read from here on. -/
  | started
  /-- The sources are read. -/
  | finished
  /-- What is about to be written. -/
  | documenting (groups : Nat) (format : OutputFormat)
  /-- A file of a JSON tree is written. -/
  | wrote (name : String)
  /-- All files of a format are written. -/
  | confirmed (format : OutputFormat)
  /-- The package of the run. -/
  | usingPackage (name : String)
  /-- The main file of the run. -/
  | usingMainFile (name : String)
  /-- The format of the run. -/
  | usingFormat (format : OutputFormat)
  /-- The output directory of the run. -/
  | usingOutput (path : Path)
  /-- The controller pattern of the run. -/
  | usingPattern (pattern : String)
deriving DecidableEq, Repr

namespace Notice

/-- How much a notice matters. -/
def level : Notice → Level
  | malformedSubApi _ | malformedParam _ | malformedResponse _ _ | malformedRouter _
  | unresolvedType _ | ungrouped _ _ _ | droppedReference _ | unreadable _ _ => .warning
  | _ => .info

/-- A notice in words. -/
def message : Notice → String
  | malformedSubApi value => s!"Ignoring malformed @SubApi annotation: {value}"
  | malformedParam value => s!"Ignoring malformed @Param annotation: {value}"
  | malformedResponse tag value => s!"Ignoring malformed @{tag} annotation: {value}"
  | malformedRouter value => s!"Ignoring malformed @Router annotation: {value}"
  | unresolvedType name => s!"Could not resolve type: {name}"
  | ungrouped function file route =>
    s!"Skipping {function} in {file.text}: cannot determine API group for {route}"
  | droppedReference path =>
    s!"Dropping listing reference {path} without documented operations"
  | unreadable file error => s!"Failed to parse {file.text}: {error.message}"
  | readingGeneral file => s!"Parsing general API info from {file.text}"
  | foundFiles count => s!"Found {count} Go files"
  | foundGroups count => s!"Found {count} API groups"
  | started => "Start parsing"
  | finished => "Finish parsing"
  | documenting groups format => s!"Documenting {groups} API groups as {format.name}"
  | wrote name => s!"Wrote {name}"
  | confirmed format => format.confirmation
  | usingPackage name => s!"API package: {name}"
  | usingMainFile name => s!"Main API file: {name}"
  | usingFormat format => s!"Output format: {format.name}"
  | usingOutput path => s!"Output: {path.text}"
  | usingPattern pattern => s!"Controller class: {pattern}"

end Notice

end ApiDocs
