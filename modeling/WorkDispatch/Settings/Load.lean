import WorkDispatch.Settings.Coercion
import WorkDispatch.Settings.Key
import WorkDispatch.Toml.Reader

/-!
Loading settings: the defaults, a file, and environment variables, of which a later one takes
precedence key by key. `load` merges them, takes the settings out and checks them.
-/

set_option autoImplicit false

namespace WorkDispatch.Settings

open Text

/-! ## Variables -/

/-- What the name of an environment variable has to begin with to be a setting. -/
def marker : String := "ai_fabric__"

/-- Two underscores in a row stand for a point. -/
def dotted : List Char → List Char
  | '_' :: '_' :: cs => '.' :: dotted cs
  | c :: cs => c :: dotted cs
  | [] => []

/-- The entry that an environment variable makes, when its name marks it as a setting. -/
def Layer.ofVariable (v : String × String) : Option (String × Layer) :=
  let name := (lower v.1).toList
  if marker.toList.isPrefixOf name then
    some (String.ofList (dotted (name.drop marker.length)), Layer.ofText v.2)
  else none

/-! ## Files -/

/-- What there is at the path of a file. -/
inductive Contents where
  | missing
  /-- Something that is not a file of text. -/
  | unreadable
  | text (s : String)

/-- Paths below the root that lead somewhere on every system, none of them to a file of text that holds
settings. -/
def commonPaths : List (List String) :=
  [[], ["bin"], ["boot"], ["dev"], ["dev", "null"], ["dev", "zero"], ["etc"], ["etc", "hosts"],
   ["etc", "passwd"], ["home"], ["lib"], ["media"], ["mnt"], ["opt"], ["proc"], ["proc", "self"],
   ["root"], ["run"], ["sbin"], ["srv"], ["sys"], ["tmp"], ["usr"], ["usr", "bin"], ["usr", "lib"],
   ["usr", "local"], ["usr", "share"], ["var"], ["var", "log"], ["var", "tmp"]]

/-- Follows a path by its parts, where two points lead back. -/
def follow? : List String → List String → Option (List String)
  | here, [] => some here
  | here, part :: parts =>
    let next := if part = ".." then here.dropLast else here ++ [part]
    if next ∈ commonPaths then follow? next parts else none

/-- What can be told of a path by itself. Relative paths lead somewhere when they only lead back. -/
def Contents.ofPath (path : String) : Contents :=
  let parts := (path.splitOn "/").filter fun part => part != "" && part != "."
  let found := if path.startsWith "/" then (follow? [] parts).isSome
    else path != "" && parts.all (· == "..")
  if found then .unreadable else .missing

/-! ## Merging and checking -/

/-- Where settings come from beyond the defaults. -/
structure Sources where
  /-- The file, by its path. -/
  file : Option (String × Contents)
  /-- The environment variables, when they count. -/
  environment : Option (List (String × String))

/-- A source that cannot be read, or a value that does not fit. -/
def badSource : Failure := .configuration "the settings cannot be read"

/-- The entries of a file. -/
def fileEntries (file : Option (String × Contents)) : Except Failure (List (String × Layer)) :=
  match file with
  | none => .ok []
  | some (path, .missing) => .error (.configuration ("configuration file not found: " ++ path))
  | some (_, .unreadable) => .error badSource
  | some (_, .text s) =>
    match Toml.read? s with
    | some es => .ok (Layer.ofTomlEntries es)
    | none => .error badSource

/-- The defaults under the entries of a file under those of the environment. -/
def merged? (freshId : String) (file environment : List (String × Layer)) : Option Layer := do
  let base ← (Layer.ofJson (Settings.default freshId).toJson).layPaths file
  base.layPaths environment

/-- The settings that a layer holds, checked. -/
def taken (freshId : String) (l : Layer) : Except Failure Settings :=
  match Layer.lenient.settings? freshId l with
  | none => .error badSource
  | some s =>
    match s.problem? with
    | some f => .error f
    | none => .ok s

/-- Whether an environment can hold a variable: it ends names at an equals sign, and both names and
texts at a zero. -/
def isVariable (v : String × String) : Bool :=
  v.1 != "" && v.1.toList.all (fun c => c != '=' && c.toNat != 0) && v.2.toList.all (·.toNat != 0)

/-- Loads the settings and checks them. There is no answer when there cannot be such an environment, or
when a key names a place that its list cannot have. -/
def load (freshId : String) (sources : Sources) : Option (Except Failure Settings) :=
  let environment := sources.environment.getD []
  if !environment.all isVariable then none
  else match fileEntries sources.file with
    | .error f => some (.error f)
    | .ok file =>
      (merged? freshId file (environment.filterMap Layer.ofVariable)).map (taken freshId)

end WorkDispatch.Settings
