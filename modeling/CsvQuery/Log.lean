import CsvQuery.Error
import CsvQuery.Text.Terminal

/-!
The log of the library as a value: entries with a level and the layer that made them, and
computations that log and may fail. What was logged before a failure is kept.
-/

namespace CsvQuery

namespace Log

/-- How much an entry matters. -/
inductive Level
  | debug | info | warn | error
  deriving DecidableEq, Repr

/-- The part of the library that made an entry. -/
inductive Layer
  | lexer
  | grammar
  /-- The evaluation of a query over the named tables. -/
  | execution (tables : String)
  /-- The command line. -/
  | shell
  deriving DecidableEq, Repr

structure Entry where
  level : Level
  layer : Layer
  message : String
  deriving DecidableEq, Repr

def Level.name : Level → String
  | debug => "DEBUG"
  | info => "INFO"
  | warn => "WARN"
  | error => "ERROR"

def Layer.name : Layer → String
  | lexer => "Lexer"
  | grammar => "Parser"
  | execution tables => "Execution Table: " ++ tables
  | shell => "Cli"

def Entry.line (e : Entry) : String :=
  e.level.name ++ " [" ++ e.layer.name ++ "] " ++ e.message

/-- The lines of an entry on the error output. A message of several lines is indented from its
second line on, and nothing in it steers the terminal. -/
def Entry.display (e : Entry) : String :=
  Text.visible ("\n    ".intercalate (e.line.splitOn "\n"))

/-- Whether entries of a level are shown, with debug logging on or off. -/
def Level.isShown (debugging : Bool) : Level → Bool
  | debug => debugging
  | info | warn | error => true

def shown (debugging : Bool) (entries : List Entry) : List Entry :=
  entries.filter fun e => e.level.isShown debugging

def Entry.debug (layer : Layer) (message : String) : Entry :=
  ⟨.debug, layer, message⟩

def Entry.warning (layer : Layer) (message : String) : Entry :=
  ⟨.warn, layer, message⟩

end Log

/-- What a computation logged and how it ended. -/
structure Logged (ε α : Type) where
  log : List Log.Entry
  outcome : Except ε α

namespace Logged

variable {ε ε' α β : Type}

instance : Monad (Logged ε) where
  pure a := ⟨[], .ok a⟩
  bind x f :=
    match x.outcome with
    | .error e => ⟨x.log, .error e⟩
    | .ok a =>
      let rest := f a
      ⟨x.log ++ rest.log, rest.outcome⟩

def ofExcept (outcome : Except ε α) : Logged ε α := ⟨[], outcome⟩

def note (entries : List Log.Entry) : Logged ε Unit := ⟨entries, .ok ()⟩

def mapError (f : ε → ε') (x : Logged ε α) : Logged ε' α := ⟨x.log, x.outcome.mapError f⟩

@[simp] theorem outcome_bind (x : Logged ε α) (f : α → Logged ε β) :
    (x >>= f).outcome = x.outcome >>= fun a => (f a).outcome := by
  cases x with
  | mk log outcome => cases outcome <;> rfl

end Logged

end CsvQuery
