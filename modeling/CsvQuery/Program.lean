import CsvQuery.Arguments
import CsvQuery.Shell
import CsvQuery.Text.Typed
import CsvQuery.Text.Utf8

/-!
The program: it reads its options, then runs one statement or a session of the shell on its input.
A run is a value: what was written to both outputs, the exit code and the files afterwards.
-/

namespace CsvQuery.Program

/-- What the program has written so far: to its output, and to its error output line by line. -/
structure Written where
  output : List Output
  errors : List String

namespace Written

def empty : Written := ⟨[], []⟩

def append (a b : Written) : Written :=
  ⟨a.output ++ b.output, a.errors ++ b.errors⟩

instance : Append Written := ⟨append⟩

def ofLog (debugging : Bool) (log : List Log.Entry) : Written :=
  ⟨[], (Log.shown debugging log).map (·.display)⟩

def ofReply (r : Reply) : Written :=
  ofLog r.shell.options.debugging r.log ++ ⟨r.output, []⟩

end Written

structure Ended where
  files : Files
  code : Nat
  written : Written

def Ended.after (e : Ended) (before : Written) : Ended :=
  { e with written := before ++ e.written }

def version : String := "csvql 0.1.0"

def usage : String := "Usage: csvql [OPTIONS] [BASE_PATH]"

def helpLines : List String := [
  "Runs SELECT statements over a directory of CSV files",
  "",
  usage,
  "",
  "Arguments:",
  "  [BASE_PATH]  Directory that contains the <table>.csv files",
  "",
  "Options:",
  "      --options <OPTIONS>  JSON options file. It is created with the default options if it " ++
    "doesn't exist",
  "      --debug              Enable debug logging",
  "  -e, --execute <EXECUTE>  Run a single statement, print its result and exit",
  "  -h, --help               Print help",
  "  -V, --version            Print version"]

def inform (files : Files) (lines : List String) : Ended :=
  ⟨files, 0, ⟨lines.map .line, []⟩⟩

def fail (files : Files) (message : String) : Ended :=
  ⟨files, 1, ⟨[], [message]⟩⟩

/-- The options of a run: those of the file, if one is given, and the arguments over them. -/
def options (files : Files) (a : Arguments) : Except Error (Options × Files) := do
  let (o, files) ←
    match a.options with
    | some path => Options.load files path
    | none => .ok (.standard, files)
  return ({ o with base := a.base.getD o.base, debugging := a.debugging || o.debugging }, files)

/-- The end of a run that is broken off. The history is lost. -/
def abort (files : Files) (message : String) : Ended :=
  ⟨files, 101, ⟨[], [message]⟩⟩

def unsorted : String :=
  "user-provided comparison function does not correctly implement a total order!"

def execute [Sorter] (files : Files) (o : Options) (statement : String) : Ended :=
  let run := Query.run files o.base statement
  let logged := Written.ofLog o.debugging
  match run.outcome with
  | .ok result =>
    ⟨files, 0, logged run.log ++ ⟨[.table (Grid.ofRows result.header result.rows)], []⟩⟩
  | .error (.failed e) =>
    ⟨files, 1, logged (run.log ++ [Shell.failure e]) ++ ⟨[.line s!"Error: {e.message}"], []⟩⟩
  | .error .aborted => (abort files unsorted).after (logged run.log)

inductive Phase
  | ended (e : Ended)
  /-- The shell waits for a line. -/
  | waiting (s : Shell) (files : Files) (written : Written)

/-- The run of the program with some options, until it needs its input. -/
def withOptions [Sorter] (files : Files) (o : Options) (statement : Option String) : Phase :=
  let written := Written.ofLog o.debugging [.debug .shell s!"Starting with options {o.describe}"]
  match Query.checkBase files o.base, statement with
  | .error e, _ => .ended ((fail files e.message).after written)
  | .ok _, some statement => .ended ((execute files o statement).after written)
  | .ok _, none =>
    match Shell.start files o with
    | .error e => .ended ((fail files e.message).after written)
    | .ok reply => .waiting reply.shell reply.files (written ++ .ofReply reply)

/-- The run of the program with some arguments, until it needs its input. -/
def begin [Sorter] (files : Files) (arguments : List String) : Phase :=
  match Arguments.read arguments with
  | .help => .ended (inform files helpLines)
  | .version => .ended (inform files [version])
  | .misused => .ended ⟨files, 2, ⟨[], [usage]⟩⟩
  | .run a =>
    match options files a with
    | .error e => .ended (fail files e.message)
    | .ok (o, files) => withOptions files o a.statement

/-- The paths that a run looks at or writes before its input. What the options name is known when
the files show the file of the options. -/
def paths (arguments : List String) (files : Option Files) : List String :=
  match Arguments.read arguments with
  | .run a =>
    match files.map (options · a) with
    | some (.ok (o, _)) =>
      a.options.toList ++ [o.base, o.variablesFile, o.historyFile] ++
        (a.statement.map (Query.paths o.base)).getD []
    | _ => a.options.toList
  | _ => []

def close (s : Shell) (files : Files) : Ended :=
  let reply := s.stop files
  ⟨reply.files, 0, .ofReply reply⟩

/-- What is reported when a line cannot be edited as it was typed. -/
def unedited : String := "A backspace would leave a part of a character"

/-- The session after one more line. A line that is not a text breaks it off. -/
def turn [Sorter] (s : Shell) (files : Files) : Option String → Phase
  | none => .ended (fail files "Cannot read input: stream did not contain valid UTF-8")
  | some line =>
    match Text.typed line with
    | none => .ended (abort files unedited)
    | some line =>
      if s.ends line then .ended (close s files)
      else
        let reply := s.reply files line
        if reply.aborts then .ended ((abort reply.files unsorted).after (.ofReply reply))
        else .waiting reply.shell reply.files (.ofReply reply)

/-- The rest of a session on some lines. Their end closes it. -/
def session [Sorter] (s : Shell) (files : Files) : List (Option String) → Ended
  | [] => close s files
  | line :: rest =>
    match turn s files line with
    | .ended e => e
    | .waiting s files written => (session s files rest).after written

def run [Sorter] (files : Files) (arguments : List String) (input : ByteArray) : Ended :=
  match begin files arguments with
  | .ended e => e
  | .waiting s files written => (session s files (Text.lines input)).after written

end CsvQuery.Program
