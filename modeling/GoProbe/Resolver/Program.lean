import GoProbe.Disk.Host

/-!
# Programs

A resolver may be a program of the host. What programs there are and what they do is told by
`Programs`: it finds a program by its name or path, and says what a program leaves behind when it is
run with arguments. Programs look at the host and leave it as it is.
-/

namespace GoProbe

/-- How a program ended. -/
inductive ExitStatus where
  | code (value : Nat)
  | signal (number : Nat)
deriving DecidableEq, Repr, Inhabited

namespace ExitStatus

def isSuccess : ExitStatus → Bool
  | code value => value == 0
  | signal _ => false

/-- The names of the signals that end a program. -/
def signalName : Nat → String
  | 1 => " (SIGHUP)"
  | 2 => " (SIGINT)"
  | 3 => " (SIGQUIT)"
  | 6 => " (SIGABRT)"
  | 9 => " (SIGKILL)"
  | 11 => " (SIGSEGV)"
  | 13 => " (SIGPIPE)"
  | 14 => " (SIGALRM)"
  | 15 => " (SIGTERM)"
  | _ => ""

def message : ExitStatus → String
  | code value => s!"exit status: {value}"
  | signal number => s!"signal: {number}{signalName number}"

end ExitStatus

/-- What a program leaves behind. -/
structure Outcome where
  status : ExitStatus := .code 0
  output : ByteArray := .empty
  errors : ByteArray := .empty
deriving Inhabited

class Programs where
  /-- The path of a program. -/
  find? : Host → String → Option String
  /-- Runs the program at a path with arguments. -/
  run : Host → String → List String → Except DiskError Outcome

end GoProbe
