import Stagehand.CommandLine.Usage

/-!
# Reading the command line
Arguments are read from left to right. A value that follows its flag as an argument of its own is
looked at only when the next flag comes or the arguments end. Flags that override a setting mean
the same before and after the subcommand; the later level wins.
-/

namespace Stagehand.CommandLine

/-! ### What is given -/

/-- The settings that flags override. -/
structure Overrides where
  logLevel : Option String := none
  logJson : Option Bool := none
  cacheUrl : Option String := none
  cacheToken : Option String := none
  timeoutMs : Option Nat := none
deriving DecidableEq

/-- The checks of a role that are asked for. -/
structure RoleCheck where
  role : Role
  tenant : Option String := none
  user : Option String := none
  minimum : Option Role := none
  allowed : List Role := []
deriving DecidableEq

/-- What the program is asked to do. -/
inductive Action
  | ping
  | checkRole (check : RoleCheck)
deriving DecidableEq

/-- The arguments of the program. -/
structure Arguments where
  configFile : Option String := none
  overrides : Overrides := {}
  action : Option Action := none
deriving DecidableEq

/-- What has been given at one level so far. -/
structure Given where
  configFile : Option String := none
  overrides : Overrides := {}
  role : Option Role := none
  tenant : Option String := none
  user : Option String := none
  minimum : Option Role := none
  allowed : List Role := []

/-! ### Values -/

/-- A role as the value of a flag. -/
def readRole (f : Flag) (value : String) : Except UsageError Role :=
  match Role.ofText value with
  | .ok r => .ok r
  | .error e => .error (.invalidValue f value e.message)

/-- A list of roles with commas between them as the value of a flag. -/
def readRoles (f : Flag) (value : String) : Except UsageError (List Role) :=
  (cutAt ',' value.toList).mapM fun piece => readRole f (String.ofList piece)

/-- The words for yes. -/
def yesWords : List String := ["y", "yes", "t", "true", "on", "1"]

/-- The words for no. -/
def noWords : List String := ["n", "no", "f", "false", "off", "0"]

/-- A yes or a no as the value of a flag, in letters of either case. -/
def readSwitch (f : Flag) (value : String) : Except UsageError Bool :=
  let word := String.ofList (value.toList.map Char.toLower)
  if word ∈ yesWords then .ok true
  else if word ∈ noWords then .ok false
  else .error (.invalidValue f value "value was not a boolean")

/-- A number as the value of a flag. -/
def readNumber (f : Flag) (value : String) : Except UsageError Nat :=
  match readUnsigned64 value.toList with
  | .ok n => .ok n
  | .error e => .error (.invalidValue f value e.message)

/-- A path as the value of a flag, which must not be empty. -/
def readPath (f : Flag) (value : String) : Except UsageError String :=
  if value = "" then .error (.missingValue f) else .ok value

/-- Sets what may be given once. -/
def once {α : Type} (f : Flag) (old : Option α) (new : Except UsageError α) :
    Except UsageError (Option α) :=
  if old.isSome then .error (.repeatedFlag f) else new.map some

namespace Given

/-- Takes the value of a flag. -/
def accept (g : Given) (f : Flag) (value : String) : Except UsageError Given :=
  let o := g.overrides
  match f with
  | .configFile => (once f g.configFile (readPath f value)).map fun v => { g with configFile := v }
  | .logLevel =>
    (once f o.logLevel (.ok value)).map fun v => { g with overrides := { o with logLevel := v } }
  | .logJson =>
    (once f o.logJson (readSwitch f value)).map fun v =>
      { g with overrides := { o with logJson := v } }
  | .cacheUrl =>
    (once f o.cacheUrl (.ok value)).map fun v => { g with overrides := { o with cacheUrl := v } }
  | .cacheToken =>
    (once f o.cacheToken (.ok value)).map fun v =>
      { g with overrides := { o with cacheToken := v } }
  | .timeout =>
    (once f o.timeoutMs (readNumber f value)).map fun v =>
      { g with overrides := { o with timeoutMs := v } }
  | .role => (once f g.role (readRole f value)).map fun v => { g with role := v }
  | .tenant => (once f g.tenant (.ok value)).map fun v => { g with tenant := v }
  | .user => (once f g.user (.ok value)).map fun v => { g with user := v }
  | .minimum => (once f g.minimum (readRole f value)).map fun v => { g with minimum := v }
  | .allowed => (readRoles f value).map fun vs => { g with allowed := g.allowed ++ vs }

end Given

/-! ### Arguments -/

/-- What an argument looks like. -/
inductive Shape
  /-- The two hyphens that end the flags. -/
  | terminator
  | long (name : String) (value : Option String)
  | short (letters : List Char)
  | word
deriving DecidableEq

/-- What an argument looks like. -/
def shapeOf (argument : String) : Shape :=
  match argument.toList with
  | ['-', '-'] => .terminator
  | '-' :: '-' :: cs =>
    let name := cs.takeWhile (· != '=')
    match cs.drop name.length with
    | [] => .long (String.ofList name) none
    | _ :: value => .long (String.ofList name) (some (String.ofList value))
  | ['-'] => .word
  | '-' :: cs => .short cs
  | _ => .word

/-- A flag whose value has not been looked at: it is yet to come, or it has just come. -/
inductive Pending
  | nothing
  | awaiting (f : Flag)
  | holding (f : Flag) (value : String)

/-- Looks at the value of a pending flag. -/
def Pending.settle (p : Pending) (g : Given) : Except Stop Given :=
  match p with
  | nothing => .ok g
  | awaiting f => .error (.fault (.missingValue f))
  | holding f value =>
    match g.accept f value with
    | .ok g => .ok g
    | .error e => .error (.fault e)

/-- Shows a text, unless a pending flag is wrong. -/
def Pending.stop (p : Pending) (g : Given) (stop : Stop) : Except Stop (Given × Pending) :=
  match p.settle g with
  | .ok _ => .error stop
  | .error s => .error s

/-- Takes an argument that looks like a flag. -/
def takeFlag (level : Level) (help : String) (g : Given) (p : Pending) (shape : Shape) :
    Except Stop (Given × Pending) :=
  match shape with
  | .long name value =>
    match level.flag? name with
    | some f =>
      match p.settle g with
      | .error s => .error s
      | .ok g =>
        match value with
        | none => .ok (g, .awaiting f)
        | some v =>
          match g.accept f v with
          | .ok g => .ok (g, .nothing)
          | .error e => .error (.fault e)
    | none =>
      if name = "help" ∨ (name = "version" ∧ level = .program) then
        match value with
        | some v => .error (.fault (.needlessValue name v))
        | none => p.stop g (if name = "help" then .help help else .version)
      else .error (.fault (.unknownArgument ("--" ++ name)))
  | .short (c :: _) =>
    if c = 'h' then p.stop g (.help help)
    else if c = 'V' ∧ level = .program then p.stop g .version
    else .error (.fault (.unknownArgument (String.ofList ['-', c])))
  | _ => .ok (g, p)

/-- The fault of an argument that has no place, at some level and after the end of the flags. -/
def misplaced (level : Level) (ended : Bool) (word : String) : UsageError :=
  if level = .program then
    if ended ∧ (word = "help" ∨ (subcommand? word).isSome) then .unknownArgument word
    else .unknownSubcommand word
  else .unknownArgument word

/-- Ends a level: nothing may follow the end of the flags. -/
def finish (level : Level) (g : Given) (p : Pending) : List String → Except Stop Given
  | [] => p.settle g
  | word :: _ => .error (.fault (misplaced level true word))

/-- Reads the arguments after a subcommand. -/
def readSubcommand (level : Level) (g : Given) (p : Pending) : List String → Except Stop Given
  | [] => p.settle g
  | argument :: rest =>
    match shapeOf argument with
    | .terminator => finish level g p rest
    | .word =>
      match p with
      | .awaiting f => readSubcommand level g (.holding f argument) rest
      | _ => .error (.fault (misplaced level false argument))
    | shape =>
      match takeFlag level (level.help "") g p shape with
      | .error s => .error s
      | .ok (g, p) => readSubcommand level g p rest

/-- The text that `help` shows for the words after it. -/
def helpFor (configFile : String) : List String → Stop
  | [] => .help (programHelp configFile)
  | word :: rest =>
    let text := if word = "help" then some helpHelp
      else (subcommand? word).map (Level.help configFile)
    match text, rest with
    | some text, [] => .help text
    | some _, word :: _ => .fault (.unknownSubcommand word)
    | none, _ => .fault (.unknownSubcommand word)

/-- The action of a subcommand, with what overrides it was given. -/
def actionOf (level : Level) (g : Given) : Except UsageError Action :=
  if level = .checkRole then
    match g.role with
    | some role => .ok (.checkRole ⟨role, g.tenant, g.user, g.minimum, g.allowed⟩)
    | none => .error (.missingFlag .role)
  else .ok .ping

/-- Overrides, of which those of the later level win. -/
def Overrides.or (later earlier : Overrides) : Overrides where
  logLevel := later.logLevel.or earlier.logLevel
  logJson := later.logJson.or earlier.logJson
  cacheUrl := later.cacheUrl.or earlier.cacheUrl
  cacheToken := later.cacheToken.or earlier.cacheToken
  timeoutMs := later.timeoutMs.or earlier.timeoutMs

/-- Reads a subcommand, after its name, and then looks at what is pending before it. -/
def readAction (level : Level) (g : Given) (p : Pending) (rest : List String) :
    Except Stop (Given × Option Action) :=
  match readSubcommand level {} .nothing rest with
  | .error s => .error s
  | .ok later =>
    match actionOf level later with
    | .error e => .error (.fault e)
    | .ok action =>
      match p.settle g with
      | .error s => .error s
      | .ok g => .ok ({ g with overrides := later.overrides.or g.overrides }, some action)

/-- Reads all arguments. `shown` is what the help shows as the configuration file. -/
def readProgram (shown : String) (g : Given) (p : Pending) :
    List String → Except Stop (Given × Option Action)
  | [] => (p.settle g).map fun g => (g, none)
  | argument :: rest =>
    match p, shapeOf argument with
    | .awaiting f, .word => readProgram shown g (.holding f argument) rest
    | p, .word =>
      if argument = "help" then .error (helpFor shown rest)
      else
        match subcommand? argument with
        | some level => readAction level g p rest
        | none => .error (.fault (misplaced .program false argument))
    | p, .terminator => (finish .program g p rest).map fun g => (g, none)
    | p, shape =>
      match takeFlag .program (programHelp shown) g p shape with
      | .error s => .error s
      | .ok (g, p) => readProgram shown g p rest

/-- The configuration file: the one given, or the one that the variable names. -/
def configFileOf (given named : Option String) : Except UsageError (Option String) :=
  match given, named with
  | some path, _ => .ok (some path)
  | none, some path => (readPath .configFile path).map some
  | none, none => .ok none

/-- The arguments of the program. `named` is the configuration file that the variable names. -/
def parse (named : Option String) (arguments : List String) : Except Stop Arguments :=
  match readProgram (named.getD "") {} .nothing arguments with
  | .error s => .error s
  | .ok (g, action) =>
    match configFileOf g.configFile named with
    | .error e => .error (.fault e)
    | .ok path => .ok ⟨path, g.overrides, action⟩

end Stagehand.CommandLine
