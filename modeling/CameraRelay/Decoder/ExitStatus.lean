/-!
# How a process ended

The operating system hands back one word of 32 bits: the low seven bits tell a normal exit (0) from
the signal that ended the process, bit seven a core dump, the next eight bits the exit code. A word
that tells nothing is shown as a signed number and in hexadecimal.
-/

namespace CameraRelay

/-- How a process ended, or that it only changed state. -/
inductive ExitStatus where
  | code (value : Nat)
  | signal (number : Nat) (coreDumped : Bool)
  | stopped (number : Nat)
  | continued
  | unknown (word : BitVec 32)
deriving DecidableEq

namespace ExitStatus

def ofWord (word : BitVec 32) : ExitStatus :=
  let n := word.toNat
  let low := n % 128
  if low = 0 then .code (n / 256 % 256)
  else if low < 127 then .signal low (n / 128 % 2 = 1)
  else if n % 256 = 127 then .stopped (n / 256 % 256)
  else if n = 65535 then .continued
  else .unknown word

/-- Only exit code 0 counts as a success. -/
def isSuccess : ExitStatus → Bool
  | code value => value == 0
  | _ => false

/-- The signals with a name, counted from 1. -/
def signalNames : List String :=
  ["SIGHUP", "SIGINT", "SIGQUIT", "SIGILL", "SIGTRAP", "SIGABRT", "SIGBUS", "SIGFPE", "SIGKILL",
   "SIGUSR1", "SIGSEGV", "SIGUSR2", "SIGPIPE", "SIGALRM", "SIGTERM", "SIGSTKFLT", "SIGCHLD",
   "SIGCONT", "SIGSTOP", "SIGTSTP", "SIGTTIN", "SIGTTOU", "SIGURG", "SIGXCPU", "SIGXFSZ",
   "SIGVTALRM", "SIGPROF", "SIGWINCH", "SIGIO", "SIGPWR", "SIGSYS"]

/-- A signal's number, followed by its name in brackets if it has one. -/
def signalText (number : Nat) : String :=
  match number with
  | 0 => "0"
  | n + 1 =>
    match signalNames[n]? with
    | some name => toString number ++ " (" ++ name ++ ")"
    | none => toString number

def text : ExitStatus → String
  | code value => "exit status: " ++ toString value
  | signal number coreDumped =>
    "signal: " ++ signalText number ++ (if coreDumped then " (core dumped)" else "")
  | stopped number => "stopped (not terminated) by signal: " ++ signalText number
  | continued => "continued (WIFCONTINUED)"
  | unknown word =>
    "unrecognised wait status: " ++ toString word.toInt ++ " 0x" ++
      String.ofList (Nat.toDigits 16 word.toNat)

end ExitStatus

end CameraRelay
