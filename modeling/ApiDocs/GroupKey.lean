import ApiDocs.Error
import ApiDocs.SortedMap
import ApiDocs.Text.Blank

/-!
# Group keys

Operations are documented in groups. The key of a group is a relative path such as `v1/users`: it
names the group in the listing and the directory of its files, so none of its segments may be
empty or lead out of the directory.
-/

set_option autoImplicit false

namespace ApiDocs

open Text (pieces)

/-- A segment that names a directory entry of its own. -/
def isSafeSegment (segment : List Char) : Bool :=
  segment != [] && segment != ['.'] && segment != ['.', '.']

/-- The key of a group: a text whose segments between slashes are all safe. -/
structure GroupKey where
  /-- The text of the key. -/
  text : String
  /-- Every segment names an entry of its own. -/
  safe : (pieces '/' text.toList).all isSafeSegment = true
deriving DecidableEq

namespace GroupKey

instance : TextKey GroupKey where
  text := GroupKey.text
  text_injective a b h := by cases a; cases b; cases h; rfl

/-- What a raw text is as a key: the text without the blanks, then without the slashes, at its
ends. -/
def canonical (raw : String) : String :=
  String.ofList (Text.trimWhile (· == '/') (Text.trim raw.toList))

/-- The key that a raw text stands for. -/
def parse (raw : String) : Except Error GroupKey :=
  if canonical raw = "" then .error (.configuration (.emptyGroupKey raw))
  else if h : (pieces '/' (canonical raw).toList).all isSafeSegment = true then
    .ok ⟨canonical raw, h⟩
  else .error (.configuration (.unsafeGroupKey raw))

/-- The key that a raw text stands for, if it stands for one. -/
def parse? (raw : String) : Option GroupKey :=
  (parse raw).toOption

/-- The segments of a key. -/
def segments (key : GroupKey) : List String :=
  (pieces '/' key.text.toList).map String.ofList

/-- The directory of a group, relative to the output directory. -/
def directory (key : GroupKey) : Path :=
  key.segments.foldl (fun path segment => path.join ⟨segment⟩) ⟨""⟩

/-- The path under which a listing refers to a group. -/
def resourcePath (key : GroupKey) : String :=
  "/" ++ key.text

end GroupKey

end ApiDocs
