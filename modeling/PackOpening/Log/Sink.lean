import PackOpening.Log.Console
import PackOpening.Log.Level
import PackOpening.Log.Moment
import PackOpening.Storage.Path

/-!
Loggers: where events go, and the line that each of them becomes.

A leaf writes the events whose level it lets through, each as one line: to the console in the form
for readers, to the console as a data record, or to a file as a data record. A group passes every
event on to all its members in order and filters nothing itself. The folder of a file is made
together with its logger, the file itself when its leaf first has something to write. A call breaks
off where its line cannot be formed or written, and where it gets no further before the stack is
full.
-/
namespace PackOpening.Log

/-- What the leaves have in common: the name of the log, and the least level that is written. -/
structure Settings where
  logType : Text
  least : Level
  deriving DecidableEq, Repr, Inhabited

inductive Sink where
  | console (settings : Settings)
  | records (settings : Settings)
  | file (settings : Settings) (path : Path)
  | group (members : List Sink)
  deriving Repr, Inhabited

/-- An event with its data, whose names are distinct. -/
structure Entry where
  level : Level
  event : Text
  data : List (Text × Json)
  deriving Repr

/-- Why a logger was not made, or a call was not carried out to its end. -/
inductive Refusal where
  | reservedName (name : Text)
  | unusable (path : Path) (fault : Path.Fault)
  | unprintable (fault : Json.PrintFault)
  | unshowable (fault : Json.PrintFault)
  | unencodable (report : Text)
  | stackFull
  deriving DecidableEq, Repr

/-- What a call comes to: a line for the console or for the end of a file, or why there is none; or
the end of the stack. -/
inductive Write where
  | console (line : Except Refusal Text)
  | file (path : Path) (line : Except Refusal Text)
  | lost

/-- A text as a line, if nothing keeps it from being formed. -/
def lineOf (text : Text) : Option Refusal → Except Refusal Text
  | none => .ok (text ++ "\n")
  | some refusal => .error refusal

namespace Entry

/-- The text for readers: time, log, level, event and data. -/
def consoleText (time logType : Text) (entry : Entry) : Text :=
  "[" ++ time ++ "] [" ++ logType ++ "] " ++ entry.level.name ++ " " ++ entry.event ++ " " ++
    shown (.obj entry.data)

def consoleLine (time logType : Text) (entry : Entry) : Text :=
  entry.consoleText time logType ++ "\n"

/-- The members that every record starts with. -/
def head (time logType : Text) (entry : Entry) : List (Text × Json) :=
  [("ts", .str time), ("log_type", .str logType), ("level", .str entry.level.name),
    ("event", .str entry.event)]

/-- The record with the data as one member. -/
def nested (time logType : Text) (entry : Entry) : Json :=
  .obj (Named.put "data" (.obj entry.data) (entry.head time logType))

/-- The record with the data among its members. Data of the same name take a member's place. -/
def merged (time logType : Text) (entry : Entry) : Json :=
  .obj (Named.update (entry.head time logType) entry.data)

/-- The names that no data can have, because the event itself is passed under them. -/
def reservedNames : List Text := ["msg", "self"]

/-- The first name among the data that is reserved. -/
def reserved? (entry : Entry) : Option Text :=
  (entry.data.map Prod.fst).find? (fun name => reservedNames.contains name)

section Formed

variable (moment : Moment) (groups : Nat) (logType : Text) (entry : Entry)

/-- The line for readers, from a leaf inside some groups. -/
def shownLine : Except Refusal Text :=
  let text := entry.consoleText moment.time logType
  lineOf text (((showFault? (moment.stack.shownRoom groups) (.obj entry.data)).map .unshowable).or
    ((moment.console.fault? text).map .unencodable))

/-- The line with the nested record, which goes to the console. -/
def nestedLine : Except Refusal Text :=
  let record := entry.nested moment.time logType
  lineOf record.print
    (((record.printFault? (moment.stack.recordRoom groups)).map .unprintable).or
      ((moment.console.fault? record.print).map .unencodable))

/-- The line with the merged record, which goes to a file. -/
def mergedLine : Except Refusal Text :=
  let record := entry.merged moment.time logType
  lineOf record.print ((record.printFault? (moment.stack.recordRoom groups)).map .unprintable)

end Formed

end Entry

namespace Sink

def defaultLogType : Text := "server"

mutual

/-- The name of a log; a group has that of its first member. -/
def logType : Sink → Text
  | console settings => settings.logType
  | records settings => settings.logType
  | file settings _ => settings.logType
  | group members => firstLogType members

def firstLogType : List Sink → Text
  | [] => defaultLogType
  | first :: _ => logType first

end

def least : Sink → Level
  | console settings => settings.least
  | records settings => settings.least
  | file settings _ => settings.least
  | group _ => .debug

/-- A member inside more groups than a call gets through is the end of it. -/
def reached (moment : Moment) (groups : Nat) : List Write :=
  if moment.stack.reach < groups then [.lost] else []

/-- What becomes of an event at a leaf. -/
def passed (moment : Moment) (entry : Entry) (groups : Nat) (settings : Settings)
    (write : Write) : List Write :=
  reached moment groups ++ if entry.level.passes settings.least then [write] else []

/-- A file inside more groups than one is opened in is the end of a call, too. -/
def toFile (moment : Moment) (groups : Nat) (path : Path) (line : Except Refusal Text) : Write :=
  if moment.stack.fileReach < groups then .lost else .file path line

mutual

/-- What becomes of an event inside some groups, from the first member of each group to the last.
Of this only the part up to the first that cannot be carried out comes about. -/
def writes (moment : Moment) (entry : Entry) (groups : Nat) : Sink → List Write
  | console settings =>
    passed moment entry groups settings (.console (entry.shownLine moment groups settings.logType))
  | records settings =>
    passed moment entry groups settings (.console (entry.nestedLine moment groups settings.logType))
  | file settings path =>
    passed moment entry groups settings
      (toFile moment groups path (entry.mergedLine moment groups settings.logType))
  | group members => reached moment groups ++ writesAll moment entry (groups + 1) members

def writesAll (moment : Moment) (entry : Entry) (groups : Nat) : List Sink → List Write
  | [] => []
  | first :: rest => writes moment entry groups first ++ writesAll moment entry groups rest

end

/-- The leaf that writes to the file `<logType>.log` in a folder. -/
def inFolder (settings : Settings) (folder : Text) : Sink :=
  file settings (Path.inFolder folder (settings.logType ++ ".log"))

/-- The logger for a mode: in production a file and records on the console, otherwise the console
for readers. -/
def forMode (mode : Text) (settings : Settings) (folder : Text) : Sink :=
  if mode = "prod" then group [inFolder settings folder, records settings] else console settings

end Sink

/-- What an environment says about logging. -/
structure Environment where
  mode : Option Text
  level : Option Text
  folder : Option Text
  deriving DecidableEq, Repr

/-- The fault of an environment: none of its values can hold the character NUL. -/
def Environment.fault? (env : Environment) : Option Path.Fault :=
  if [env.mode, env.level, env.folder].any
      (fun value => (value.getD []).contains (.ofCode 0)) then some .holdsNul
  else none

def Environment.sink (env : Environment) (logType : Text) : Sink :=
  Sink.forMode (env.mode.getD "dev") ⟨logType, Level.ofName (env.level.getD "INFO")⟩
    (env.folder.getD "logs")

/-- What has been written: the text on the console, and the content of each file. Files and the
folders that are there stand under the names from the top of all folders as they are stored, and
paths lead from a home folder. -/
structure Output where
  home : Path
  console : Text
  files : List (Path × Text)
  folders : List Path
  deriving DecidableEq, Repr

namespace Output

mutual

/-- Makes the folders that a logger needs. -/
def prepare (output : Output) : Sink → Except Refusal Output
  | .file _ path =>
    match Path.makeFolder output.home output.folders path.dropLast with
    | .ok folders => .ok { output with folders := folders }
    | .error (path, fault) => .error (.unusable path fault)
  | .group members => prepareAll output members
  | _ => .ok output

def prepareAll (output : Output) : List Sink → Except Refusal Output
  | [] => .ok output
  | first :: rest =>
    match prepare output first with
    | .error refusal => .error refusal
    | .ok output => prepareAll output rest

end

/-- The output of a new logger, before its first call, where only the folders that lead home are
there. -/
def opened (home : Path) (sink : Sink) : Except Refusal Output :=
  prepare ⟨home, [], [], Path.folders [] home⟩ sink

/-- Adds a text to the end of a file, which is made if need be. -/
def appendText (path : Path) (text : Text) : List (Path × Text) → List (Path × Text)
  | [] => [(path, text)]
  | (p, content) :: rest =>
    if p = path then (p, content ++ text) :: rest else (p, content) :: appendText path text rest

/-- Why no file can be written at a path whose folder is there. -/
def fileFault? (output : Output) (path : Path) : Option Path.Fault :=
  match path.refused? with
  | some fault => some fault
  | none =>
    if path.any Path.isLongName then some .tooLong
    else if output.folders.contains (output.home.located path) then some .isFolder
    else none

/-- Adds a text to the file that a path leads to. -/
def append (output : Output) (path : Path) (text : Text) : Output :=
  { output with files := appendText (output.home.located path) text output.files }

/-- Carries out a write, if it can be. A file is opened, and made if need be, before its line is
formed. -/
def add (output : Output) : Write → Output × Option Refusal
  | .lost => (output, some .stackFull)
  | .console (.ok line) => ({ output with console := output.console ++ line }, none)
  | .console (.error refusal) => (output, some refusal)
  | .file path line =>
    match output.fileFault? path, line with
    | some fault, _ => (output, some (.unusable path fault))
    | none, .ok line => (output.append path line, none)
    | none, .error refusal => (output.append path [], some refusal)

/-- Carries out writes up to the first that cannot be. -/
def addAll (output : Output) : List Write → Output × Option Refusal
  | [] => (output, none)
  | write :: rest =>
    match output.add write with
    | (output, none) => output.addAll rest
    | (output, some refusal) => (output, some refusal)

/-- Carries out one call. A call whose data use a reserved name writes nothing. -/
def log (output : Output) (moment : Moment) (sink : Sink) (entry : Entry) :
    Output × Option Refusal :=
  match entry.reserved? with
  | some name => (output, some (.reservedName name))
  | none => output.addAll (sink.writes moment entry 0)

end Output

/-- The report of a refusal, for a call of some method and paths shown in some way. -/
def Refusal.message (method : String) (shown : Path → Text) : Refusal → Text
  | .reservedName name =>
    "Logger." ++ method ++ "() got multiple values for argument '" ++ name ++ "'"
  | .unusable path fault => fault.message (shown path)
  | .unprintable fault => fault.message "encoding a JSON object"
  | .unshowable fault => fault.message "getting the repr of an object"
  | .unencodable report => report
  | .stackFull => "maximum recursion depth exceeded"

end PackOpening.Log
