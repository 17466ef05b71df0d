import Mathdown.Engine
import Mathdown.Text.Blank
import Mathdown.Text.Utf8

/-!
The fallback for math that runs a command. The command gets the expression as its last argument
and writes a drawing to its standard output; what it says otherwise is told by `Command.result`.
-/

namespace Mathdown

/-- How a process has ended. -/
inductive ExitStatus where
  | code (n : Nat)
  | signal (n : Nat) (coreDumped : Bool := false)
deriving DecidableEq, Repr

namespace ExitStatus

def isSuccess (s : ExitStatus) : Bool := s == .code 0

def isSignal : ExitStatus → Bool
  | .code _ => false
  | .signal .. => true

/-- The signals in the order of their numbers, of which the first is one. -/
def signals : List String :=
  ["SIGHUP", "SIGINT", "SIGQUIT", "SIGILL", "SIGTRAP", "SIGABRT", "SIGBUS", "SIGFPE", "SIGKILL",
    "SIGUSR1", "SIGSEGV", "SIGUSR2", "SIGPIPE", "SIGALRM", "SIGTERM", "SIGSTKFLT", "SIGCHLD", "SIGCONT",
    "SIGSTOP", "SIGTSTP", "SIGTTIN", "SIGTTOU", "SIGURG", "SIGXCPU", "SIGXFSZ", "SIGVTALRM", "SIGPROF",
    "SIGWINCH", "SIGIO", "SIGPWR", "SIGSYS"]

def signalName (n : Nat) : String :=
  if n = 0 then ""
  else (signals[n - 1]?.map fun name => " (" ++ name ++ ")").getD ""

def text : ExitStatus → String
  | .code n => "exit status: " ++ toString n
  | .signal n coreDumped =>
    "signal: " ++ toString n ++ signalName n ++ if coreDumped then " (core dumped)" else ""

end ExitStatus

/-- What comes of running a program. -/
inductive ProcessOutcome where
  /-- There is no such program. -/
  | notFound
  /-- The program could not be started. -/
  | failed (message : String)
  | ended (status : ExitStatus) (output errors : List UInt8)
deriving DecidableEq, Repr

/-- A command and the arguments that go before the expression. -/
structure Command where
  program : String
  args : List String := []
deriving DecidableEq, Repr

namespace Command

/-- All arguments: those of the command, the format, and the expression. -/
def arguments (c : Command) (expression : String) (format : TexFormat) : List String :=
  c.args ++ (if format = .inline then ["--inline"] else []) ++ ["--", expression]

/-- The lines of a text that hold something, without blanks at either end. -/
def messageLines (text : String) : List String :=
  ((Text.lines text).map Text.trim).filter (· != "")

/-- A drawing is what a successful process writes; any other outcome is an error. -/
def result (c : Command) : ProcessOutcome → Except FallbackError String
  | .notFound => .error ⟨["math command not found: " ++ c.program]⟩
  | .failed message => .error ⟨["failed to run " ++ c.program ++ ": " ++ message]⟩
  | .ended status output errors =>
    if !status.isSuccess then
      match messageLines (Text.Utf8.decodeLossy errors) with
      | [] => .error ⟨[c.program ++ " exited with " ++ status.text]⟩
      | messages => .error ⟨messages⟩
    else
      let svg := Text.trim (Text.Utf8.decodeLossy output)
      if svg.isEmpty then .error ⟨[c.program ++ " produced no output"]⟩ else .ok svg

/-- The command as a fallback engine, over a way to run programs. -/
def fallback {ω : Type} (c : Command) (run : String → List String → ProcessOutcome) :
    FallbackEngine ω where
  typeset expression format w :=
    (.ready (c.result (run c.program (c.arguments expression format))), w)

end Command

end Mathdown
