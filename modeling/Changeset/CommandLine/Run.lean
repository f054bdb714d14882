import Changeset.CommandLine.Report
import Changeset.CommandLine.Switch
import Changeset.CommandLine.World
import Changeset.Engine
import Changeset.Settings.File

/-!
# Running commands

The program reads its arguments, then its settings, and then runs one command,
which reports what it finds on the standard output. Notes and errors go to the
standard error, so that they never mix with a report.
-/

namespace Changeset.CommandLine

/-! ## Outcomes -/

/-- What ends the program without a report and without a word of its own. -/
inductive Crash where
  | missingFile
  | isDirectory
  | encoding (fault : Utf8.Fault)
  | settings (fault : Settings.FileFault)
  | engine (fault : Engine.Fault)

inductive Stop where
  | help (page : Page)
  /-- Help that was not asked for. -/
  | lost (page : Page)
  | misuse (page : Page) (misuse : Misuse)
  | unreadable (error : SourceError)
  | crash (crash : Crash)

structure Outcome where
  exitCode : Nat
  stdout : String
  stderr : String
  crash : Option Crash

abbrev Running := Noted (Except Stop Report)

def stop (s : Stop) : Running := pure (.error s)

def andThen {α : Type} (r : Except Stop α) (f : α → Running) : Running :=
  match r with
  | .error s => stop s
  | .ok a => f a

def topicPath : Topic → String
  | .engine => "semantic_diff.engine"
  | .source => "semantic_diff.language_support"
  | .patch => "semantic_diff.patch_parser"
  | .segmentation => "semantic_diff.patch_splitting"

def noteLine (n : Note) : String := "DEBUG " ++ topicPath n.topic ++ ": " ++ n.message ++ "\n"

def misuseText (page : Page) (m : Misuse) : String :=
  (if m.hasHint then page.hint else "") ++ "Error: " ++ m.message ++ "\n"

def stopped (log : String) : Stop → Outcome
  | .help page => ⟨0, page.help, log, none⟩
  | .lost page => ⟨2, "", log ++ page.help, none⟩
  | .misuse page m => ⟨2, "", log ++ misuseText page m, none⟩
  | .unreadable e => ⟨1, "", log ++ "❌ Error: " ++ e.message ++ "\n", none⟩
  | .crash c => ⟨1, "", log, some c⟩

def finished (verbose : Bool) (r : Running) : Outcome :=
  let log := if verbose then String.join (r.notes.map noteLine) else ""
  match r.value with
  | .error s => stopped log s
  | .ok report => ⟨0, report.render ++ "\n", log, none⟩

/-! ## Reading -/

def readText (w : World) (path : String) : Except Stop String :=
  let decode (bytes : List UInt8) : Except Stop String :=
    match Utf8.decode bytes with
    | .ok cs => .ok (String.ofList cs)
    | .error f => .error (.crash (.encoding f))
  if path == "-" then decode w.input
  else
    match w.find? path with
    | none => .error (.crash .missingFile)
    | some .directory => .error (.crash .isDirectory)
    | some (.file bytes) => decode bytes

def existingFile (w : World) (page : Page) (names path : String) : Except Stop Unit :=
  let problem (p : String) : Except Stop Unit := .error (.misuse page (.badValue names p))
  match w.find? path with
  | none => problem ("File " ++ quoted path ++ " does not exist.")
  | some .directory => problem ("File " ++ quoted path ++ " is a directory.")
  | some (.file _) => .ok ()

/-! ## Checking switches -/

/-- A letter in any case, and the long s, count as the small letter. -/
def foldCase (s : String) : String :=
  String.ofList ((Letter.lower s).toList.map fun c => if c == 'ſ' then 's' else c)

def strategyOf? (s : String) : Option Strategy := Strategy.ofName? (foldCase s)

def checkStrategy (names value : String) : Except Stop Unit :=
  match strategyOf? value with
  | some _ => .ok ()
  | none => .error (.misuse .split (.badValue names
      (quoted value ++ " is not one of " ++
        ", ".intercalate (Strategy.all.map fun s => quoted s.name) ++ ".")))

def checkSwitch (w : World) (page : Page) (s : Switch) (value : String) : Except Stop Unit :=
  match s.key with
  | .config =>
    match w.find? value with
    | some _ => .ok ()
    | none => .error (.misuse page (.badValue s.names
        ("Path " ++ quoted value ++ " does not exist.")))
  | .strategy => checkStrategy s.names value
  | .before | .after => existingFile w page s.names value
  | _ => .ok ()

def checkSwitches (w : World) (page : Page) (g : Given) : Except Stop Unit :=
  if g.has .help then .error (.help page)
  else
    (g.switches.map (·.1)).forM fun k =>
      match page.switches.find? (·.key = k), g.value? k with
      | some s, some v => checkSwitch w page s v
      | _, _ => .ok ()

def arguments (w : World) (page : Page) (args : List String) : Except Stop Given :=
  match given page.switches page.mixes args with
  | .error m => .error (.misuse page m)
  | .ok g => (checkSwitches w page g).map fun _ => g

/-- No argument may be left over. -/
def checkRest (page : Page) : List String → Except Stop Unit
  | [] => .ok ()
  | rest => .error (.misuse page (.extra rest))

def needed (page : Page) (name : String) : List String → Except Stop (String × List String)
  | [] => .error (.misuse page (.missing name))
  | a :: rest => .ok (a, rest)

/-! ## Commands -/

def fromEngine (f : Engine.Fault) : Stop :=
  match f with
  | .source e => .unreadable e
  | f => .crash (.engine f)

def reported {α : Type} (make : α → Report) (r : Noted (Except Engine.Fault α)) : Running :=
  r.map fun r => (r.mapError fromEngine).map make

structure DiffArguments where
  before : String
  after : String
  language : String

def fileArgument (w : World) (page : Page) (name : String) (args : List String) :
    Except Stop (String × List String) := do
  let (path, rest) ← needed page name args
  existingFile w page (quoted name) path
  .ok (path, rest)

/-- The language is that of the new version's name if none is given. -/
def diffArguments (w : World) (args : List String) : Except Stop DiffArguments := do
  let g ← arguments w .diff args
  let (before, rest) ← fileArgument w .diff "BEFORE" g.others
  let (after, rest) ← fileArgument w .diff "AFTER" rest
  checkRest .diff rest
  let given := (g.value? .language).getD ""
  .ok ⟨before, after, if given.isEmpty then Language.ofPath after else given⟩

def runDiff (w : World) (settings : Settings) (a : DiffArguments) : Running :=
  andThen (readText w a.before) fun before =>
    andThen (readText w a.after) fun after =>
      reported (Report.ofChanges a.language) (Engine.compare settings a.language (some a.after)
        (Text.ofString before) (Text.ofString after))

structure SplitArguments where
  patch : String
  language : String
  strategy : Option Strategy
  before : Option String
  after : Option String

def splitArguments (w : World) (args : List String) : Except Stop SplitArguments := do
  let g ← arguments w .split args
  let (patch, rest) ← needed .split "PATCH" g.others
  checkRest .split rest
  .ok ⟨patch, (g.value? .language).getD "unknown", (g.value? .strategy).bind strategyOf?,
    g.value? .before, g.value? .after⟩

/-- Splits by symbol if there are two versions, and by hunk otherwise. -/
def runSplit (w : World) (settings : Settings) (a : SplitArguments) : Running :=
  andThen (readText w a.patch) fun patch =>
    let strategy := a.strategy.getD settings.strategy
    let plain := reported Report.ofChunks
      (Engine.split settings patch a.language (some strategy.name))
    match strategy, a.before, a.after with
    | .symbol, some b, some f =>
      andThen (readText w b) fun before =>
        andThen (readText w f) fun after =>
          reported Report.ofChunks (Engine.splitBySymbol settings patch a.language (some f)
            (Text.ofString before) (Text.ofString after))
    | .symbol, some _, none | .symbol, none, some _ => stop (.misuse .split .halfPair)
    | _, _, _ => plain

inductive Command where
  | diff
  | split
  deriving DecidableEq, Repr

namespace Command

def name : Command → String
  | diff => "diff"
  | split => "split"

def ofName? (s : String) : Option Command := [diff, split].find? (·.name = s)

def run (c : Command) (w : World) (settings : Settings) (args : List String) : Running :=
  match c with
  | diff => andThen (diffArguments w args) (runDiff w settings)
  | split => andThen (splitArguments w args) (runSplit w settings)

end Command

/-! ## The program -/

def settingsOf (w : World) (path : Option String) : Except Stop Settings :=
  match path with
  | none => .ok Settings.default
  | some path =>
    match w.find? path with
    | none => .error (.crash .missingFile)
    | some .directory => .error (.crash .isDirectory)
    | some (.file bytes) =>
      match Settings.ofFile path bytes with
      | .ok s => .ok s
      | .error f =>
        match f.message? with
        | some m => .error (.misuse .program (.badValue "--config" m))
        | none => .error (.crash (.settings f))

/-- Whether notes are logged: debugging is strongest, then `--verbose`, then the settings. -/
def logsNotes (g : Given) (settings : Settings) : Bool :=
  g.has .debug || (!g.has .verbose && settings.level.showsDebug)

def commandOf (w : World) (args : List String) : Except Stop (Command × List String) :=
  match args with
  | [] => .error (.misuse .program .noCommand)
  | name :: rest =>
    match Command.ofName? name with
    | some c => .ok (c, rest)
    | none => do
      if isSwitch name.toList then
        let _ ← arguments w .program args
      .error (.misuse .program (.unknownCommand name))

structure Call where
  settings : Settings
  verbose : Bool
  command : Command
  args : List String

def callOf (w : World) (args : List String) : Except Stop Call := do
  if args.isEmpty then .error (.lost .program)
  let g ← arguments w .program args
  let (command, rest) ← commandOf w g.others
  let settings ← settingsOf w (g.value? .config)
  .ok ⟨settings, logsNotes g settings, command, rest⟩

def run (w : World) (args : List String) : Outcome :=
  match callOf w args with
  | .error s => stopped "" s
  | .ok c => finished c.verbose (c.command.run w c.settings c.args)

end Changeset.CommandLine
