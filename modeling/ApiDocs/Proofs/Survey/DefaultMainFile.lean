import ApiDocs.Proofs.Files.Components
import ApiDocs.Survey

/-!
# The main file of a package by default

Unless another file is named, the main file is `main.go` of the package. Its place under a root and
the place of the package are put together apart, from texts with different slashes, so they are
compared as components. Slashes in front of a main file are dropped, and the file is always looked
for under the root. A package is joined as it is written, so an absolute one is looked for at its
own place, whatever the root. Hence both lie together exactly if the package is relative
(`mainFile_in_package_iff`).
-/

set_option autoImplicit false

namespace ApiDocs

namespace Path

theorem namesOf_cons_slash (s : List Char) : namesOf ('/' :: s) = namesOf s := by
  have happend := namesOf_append_cons [] s
  rwa [List.nil_append, namesOf_nil, List.nil_append] at happend

/-- Slashes at the start of a text are around no name. -/
theorem namesOf_dropWhile_slash (s : List Char) :
    namesOf (s.dropWhile (· == '/')) = namesOf s := by
  induction s with
  | nil => rfl
  | cons c s ih =>
    by_cases hc : c = '/'
    · rw [hc, List.dropWhile_cons_of_pos (by decide), ih, namesOf_cons_slash]
    · rw [List.dropWhile_cons_of_neg (by simpa using hc)]

theorem isAbsolute_dropWhile_slash (s : List Char) :
    isAbsolute ⟨String.ofList (s.dropWhile (· == '/'))⟩ = false := by
  rw [isAbsolute, String.toList_ofList, beq_eq_false_iff_ne]
  intro hhead
  have hslash := List.head?_dropWhile_not (· == '/') s
  rw [hhead] at hslash
  exact absurd hslash (by decide)

theorem isName_src : IsName "src" :=
  ⟨by decide, by decide⟩

theorem isName_mainGo : IsName "main.go" :=
  ⟨by decide, by decide⟩

/-- What is joined to the directory of sources under a root has its components behind those. -/
theorem components_join_src {q : Path} (hq : q.isAbsolute = false) (root : Path) :
    ((root.join ⟨"src"⟩).join q).components
      = root.components ++ [.entry "src"] ++ q.names.filterMap component? := by
  have hnames : (root.join ⟨"src"⟩).names ≠ [] := by
    rw [names_join isName_src.isAbsolute, names_of_not_mem isName_src.ne_empty isName_src.slash]
    exact List.append_ne_nil_of_right_ne_nil _ (List.cons_ne_nil _ _)
  rw [components_join hq (Or.inl hnames), components_join_name isName_src]

end Path

namespace Survey

open ApiDocs.Path (Component components_join_src component? isName_mainGo names)

variable (package mainFile : String) (root : Path)

/-- The main file lies under the root, at the names that it is written with. -/
theorem components_mainFileUnder :
    (mainFileUnder mainFile root).components
      = root.components ++ [.entry "src"] ++ (names ⟨mainFile⟩).filterMap component? := by
  rw [mainFileUnder, components_join_src (Path.isAbsolute_dropWhile_slash _),
    Path.names_eq_namesOf, String.toList_ofList, Path.namesOf_dropWhile_slash,
    ← Path.names_eq_namesOf ⟨mainFile⟩]

theorem names_default : names ⟨package ++ "/main.go"⟩ = names ⟨package⟩ ++ ["main.go"] := by
  have hmain : Path.namesOf "main.go".toList = ["main.go"] := by decide
  rw [Path.names_eq_namesOf, String.toList_append]
  change Path.namesOf (package.toList ++ '/' :: "main.go".toList) = _
  rw [Path.namesOf_append_cons, hmain]
  rfl

theorem packageUnder_absolute (h : Path.isAbsolute ⟨package⟩ = true) :
    packageUnder package root = ⟨package⟩ := by
  rw [packageUnder, Path.join, if_pos h]

theorem components_packageUnder (h : Path.isAbsolute ⟨package⟩ = false) :
    (packageUnder package root).components
      = root.components ++ [.entry "src"] ++ (names ⟨package⟩).filterMap component? :=
  components_join_src h root

end Survey

/-- Settings that are accepted have the package and the roots as given, and the main file of the
package when no other is named. -/
theorem Settings.mainFile_default {package format : String} {mainFile : Option String}
    {output : Path} {controllerPattern : Option String} {roots : List Path} {policy : RootPolicy}
    {settings : Settings} (hdefault : nonempty? mainFile = none)
    (h : make package mainFile format output controllerPattern roots policy = .ok settings) :
    settings.apiPackage = package ∧ settings.mainFile = package ++ "/main.go"
      ∧ settings.roots = roots := by
  unfold make at h
  rw [hdefault] at h
  cases hformat : OutputFormat.parse format with
  | error e =>
    rw [hformat] at h
    cases h
  | ok parsed =>
    rw [hformat] at h
    dsimp only [bind, Except.bind] at h
    split at h
    · cases h
    · cases h
      exact ⟨rfl, rfl, rfl⟩

namespace Survey

open ApiDocs.Path (component? isName_mainGo names)

/-- **The default main file.** For settings without a main file of their own, the place of the main
file under a root is that of `main.go` in the directory of the package under the same root, exactly
if the package is not an absolute path. The main file lies under the root in any case; an absolute
package is the same directory for all roots. -/
theorem mainFile_in_package_iff {package format : String} {mainFile : Option String}
    {output : Path} {controllerPattern : Option String} {roots : List Path} {policy : RootPolicy}
    {settings : Settings} (hdefault : Settings.nonempty? mainFile = none)
    (h : Settings.make package mainFile format output controllerPattern roots policy
      = .ok settings) :
    settings.roots = roots ∧ ∀ root ∈ roots,
      let file := mainFileUnder settings.mainFile root
      let directory := packageUnder settings.apiPackage root
      (file.components = (directory.join ⟨"main.go"⟩).components
        ↔ Path.isAbsolute ⟨package⟩ = false) ∧
      file.components = root.components ++ [.entry "src"]
        ++ (names ⟨package⟩).filterMap component? ++ [.entry "main.go"] ∧
      (Path.isAbsolute ⟨package⟩ = true → directory = ⟨package⟩) := by
  obtain ⟨hpackage, hfile, hroots⟩ := Settings.mainFile_default hdefault h
  refine ⟨hroots, fun root _ => ?_⟩
  intro file directory
  have hmain : [("main.go" : String)].filterMap component? = [.entry "main.go"] := by decide
  have hplace : file.components = root.components ++ [.entry "src"]
      ++ (names ⟨package⟩).filterMap component? ++ [.entry "main.go"] := by
    change (mainFileUnder settings.mainFile root).components = _
    rw [components_mainFileUnder, hfile, names_default, List.filterMap_append, hmain,
      ← List.append_assoc]
  have hdirectory : directory = packageUnder package root :=
    congrArg (packageUnder · root) hpackage
  refine ⟨?_, hplace, fun habsolute => ?_⟩
  · rw [hplace, Path.components_join_name isName_mainGo, List.append_cancel_right_eq, hdirectory]
    cases habsolute : Path.isAbsolute ⟨package⟩ with
    | false => simp [components_packageUnder package root habsolute]
    | true =>
      -- In front of the names of an absolute package stands the top and not `src`.
      rw [packageUnder_absolute package root habsolute, Path.components_of_isAbsolute habsolute]
      refine iff_of_false (fun hsame => ?_) (by decide)
      have hlast : root.components ++ [.entry "src"] = [] ++ [.root] :=
        List.append_cancel_right hsame
      cases List.append_inj_right' hlast rfl
  · rw [hdirectory, packageUnder_absolute package root habsolute]

/-- With the package `./api//` under the roots `go/` and the empty one, the main file is the one in
the package. -/
theorem mainFile_in_package_api :
    ∃ settings : Settings, Settings.make "./api//" (some "") "go" ⟨"."⟩ none [⟨"go/"⟩, ⟨""⟩]
        .everyMatch = .ok settings ∧
      ∀ root ∈ [(⟨"go/"⟩ : Path), ⟨""⟩], (mainFileUnder settings.mainFile root).components
        = ((packageUnder settings.apiPackage root).join ⟨"main.go"⟩).components := by
  have hmake : Settings.make "./api//" (some "") "go" ⟨"."⟩ none [⟨"go/"⟩, ⟨""⟩] .everyMatch
      = .ok ⟨"./api//", "./api///main.go", .go, ⟨"."⟩, none, [⟨"go/"⟩, ⟨""⟩], .everyMatch⟩ := by
    rfl
  refine ⟨_, hmake, fun root hroot => ?_⟩
  have hdefault : Settings.nonempty? (some "") = none := by decide
  exact ((mainFile_in_package_iff hdefault hmake).2 root hroot).1.2 (by decide)

/-- The absolute package `/api` is looked for at the top, and its main file under the root. -/
theorem absolute_package_apart :
    ∃ settings : Settings, Settings.make "/api" none "go" ⟨"."⟩ none [⟨"r"⟩] .everyMatch
        = .ok settings ∧
      mainFileUnder settings.mainFile ⟨"r"⟩ = ⟨"r/src/api/main.go"⟩ ∧
      (packageUnder settings.apiPackage ⟨"r"⟩).join ⟨"main.go"⟩ = ⟨"/api/main.go"⟩ ∧
      (mainFileUnder settings.mainFile ⟨"r"⟩).components
        ≠ ((packageUnder settings.apiPackage ⟨"r"⟩).join ⟨"main.go"⟩).components :=
  ⟨_, rfl, by decide, by decide, by decide⟩

end Survey

end ApiDocs
