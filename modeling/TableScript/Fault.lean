/-! What the operating system reports when a file cannot be read or a program cannot be started, and
how a program ends. -/
namespace TableScript

inductive Fault where
  | notFound
  | isDirectory
  | notDirectory
  | nameTooLong
  | tooManyLinks
  | brokenPipe
  | argumentsTooLong
  | nulInPath
  | nulInCommand
  | notUtf8
  deriving DecidableEq, Repr

def Fault.reason : Fault → String
  | .notFound => "No such file or directory"
  | .isDirectory => "Is a directory"
  | .notDirectory => "Not a directory"
  | .nameTooLong => "File name too long"
  | .tooManyLinks => "Too many levels of symbolic links"
  | .brokenPipe => "Broken pipe"
  | .argumentsTooLong => "Argument list too long"
  | .nulInPath => "file name contained an unexpected NUL byte"
  | .nulInCommand => "nul byte found in provided data"
  | .notUtf8 => "stream did not contain valid UTF-8"

def Fault.number? : Fault → Option Nat
  | .notFound => some 2
  | .argumentsTooLong => some 7
  | .notDirectory => some 20
  | .isDirectory => some 21
  | .brokenPipe => some 32
  | .nameTooLong => some 36
  | .tooManyLinks => some 40
  | .nulInPath | .nulInCommand | .notUtf8 => none

def Fault.message (fault : Fault) : String :=
  fault.reason ++ match fault.number? with
    | some number => " (os error " ++ toString number ++ ")"
    | none => ""

inductive ExitStatus where
  | exited (code : Nat)
  | signaled (number : Nat)
  deriving DecidableEq, Repr

namespace ExitStatus

def isSuccess (status : ExitStatus) : Bool := status == .exited 0

def signalNames : List String :=
  ["SIGHUP", "SIGINT", "SIGQUIT", "SIGILL", "SIGTRAP", "SIGABRT", "SIGBUS", "SIGFPE", "SIGKILL",
   "SIGUSR1", "SIGSEGV", "SIGUSR2", "SIGPIPE", "SIGALRM", "SIGTERM", "SIGSTKFLT", "SIGCHLD",
   "SIGCONT", "SIGSTOP", "SIGTSTP", "SIGTTIN", "SIGTTOU", "SIGURG", "SIGXCPU", "SIGXFSZ",
   "SIGVTALRM", "SIGPROF", "SIGWINCH", "SIGIO", "SIGPWR", "SIGSYS"]

def describe : ExitStatus → String
  | .exited code => "exit status: " ++ toString code
  | .signaled number =>
    let head := "signal: " ++ toString number
    if number = 0 then head
    else match signalNames[number - 1]? with
      | some name => head ++ " (" ++ name ++ ")"
      | none => head

end ExitStatus

end TableScript
