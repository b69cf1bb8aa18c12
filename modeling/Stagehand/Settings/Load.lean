import Stagehand.CommandLine.Parser
import Stagehand.Environment
import Stagehand.Settings.Basic
import Stagehand.Settings.Files
import Stagehand.Settings.KeyPath

/-!
# Loading the settings
The sources of settings are, in the order in which they are laid over each other, two files with
fixed names, the file that the command line names, and the variables whose names begin with
`FANHUB__`. Two more variables fill in the URL and the token of the cache where these are still
missing. The flags of the command line have the last word.
-/

namespace Stagehand

/-- Why settings cannot be loaded. -/
inductive LoadError
  /-- A file is not written in its format. -/
  | malformed (place : String)
  | file (f : Settings.FileFault)
  | misfit (m : Settings.Misfit)
  | invalid (e : Settings.Invalid)

namespace LoadError

/-- The words for why settings cannot be loaded. -/
def message : LoadError → String
  | malformed place => building ++ "malformed file in " ++ place
  | file f => building ++ f.message
  | misfit m => building ++ m.message
  | invalid e => e.message
where
  building := "failed to build configuration: "

end LoadError

namespace Settings

/-! ### Sources -/

/-- The files that are looked for in any case. -/
def fixedFiles : List String := ["config/default", "fanhub"]

/-- What a file that was found supplies. -/
def ofFound (f : Found) : Except LoadError (Members Tree) :=
  match f.format.entries? f.place f.text with
  | some es => .ok es
  | none => .error (.malformed f.place)

/-- What a file supplies that may be missing. -/
def ofFixedFile (d : Directory) (name : String) : Except LoadError (Members Tree) :=
  match d.find name with
  | .ok f => ofFound f
  | .error _ => .ok []

/-- What the file supplies that the command line names. -/
def ofNamedFile (d : Directory) : Option String → Except LoadError (Members Tree)
  | none => .ok []
  | some name =>
    match d.find name with
    | .ok f => ofFound f
    | .error f => .error (.file f)

/-- The beginning of the names of variables that hold settings, in small letters. -/
def variableMark : String := "fanhub__"

/-- A name with a point for every two underscores. -/
def withPoints : List Char → List Char
  | '_' :: '_' :: cs => '.' :: withPoints cs
  | c :: cs => c :: withPoints cs
  | [] => []

/-- The setting that a variable holds. -/
def ofVariable (v : String × String) : Option (String × Tree) :=
  let name := (lowerCase v.1).toList
  let mark := variableMark.toList
  if mark.isPrefixOf name then
    let key := String.ofList (withPoints (name.drop mark.length))
    some (key, .leaf (some "the environment") (.text v.2))
  else none

/-- The settings that variables hold. -/
def ofEnvironment (env : Environment) : List (String × Tree) := env.filterMap ofVariable

/-- What all sources supply that are laid over each other, the lowest first. -/
def layers (env : Environment) (d : Directory) (configFile : Option String) :
    Except LoadError (List (List (String × Tree))) :=
  match fixedFiles.mapM (ofFixedFile d) with
  | .error e => .error e
  | .ok fixed =>
    match ofNamedFile d configFile with
    | .error e => .error e
    | .ok named => .ok (fixed ++ [named, ofEnvironment env])

/-- The sources laid over each other. -/
def layered (sources : List (List (String × Tree))) : Tree :=
  sources.foldl (fun below source => Tree.supply source below) (.ofEntries [])

/-! ### Filling in and overriding -/

/-- The variable that fills in the URL of the cache. -/
def urlVariable : String := "UPSTASH_REDIS_REST_URL"

/-- The variable that fills in the token for the cache. -/
def tokenVariable : String := "UPSTASH_REDIS_REST_TOKEN"

/-- The supplied settings with the URL and the token filled in where they are missing. -/
def Supplied.fillIn (s : Supplied) (env : Environment) : Supplied :=
  { s with
    url := s.url.or (env.lookup urlVariable)
    token := s.token.or (env.lookup tokenVariable) }

/-- The supplied settings with those of the flags instead where there are such. -/
def Supplied.override (s : Supplied) (o : CommandLine.Overrides) : Supplied where
  level := o.logLevel.or s.level
  json := o.logJson.or s.json
  url := o.cacheUrl.or s.url
  token := o.cacheToken.or s.token
  timeoutMs := o.timeoutMs.or s.timeoutMs

/-! ### Loading -/

/-- What all sources and flags supply together. -/
def supplied (env : Environment) (d : Directory) (arguments : CommandLine.Arguments) :
    Except LoadError Supplied :=
  match layers env d arguments.configFile with
  | .error e => .error e
  | .ok sources =>
    match Supplied.ofEntries ((layered sources).entries?.getD []) with
    | .error m => .error (.misfit m)
    | .ok s => .ok ((s.fillIn env).override arguments.overrides)

/-- The settings of the program. -/
def load (env : Environment) (d : Directory) (arguments : CommandLine.Arguments) :
    Except LoadError Settings :=
  match supplied env d arguments with
  | .error e => .error e
  | .ok s =>
    match ofSupplied s with
    | .error e => .error (.invalid e)
    | .ok settings => .ok settings

end Settings

end Stagehand
