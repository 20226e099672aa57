/-!
# Running scripts

A script that runs is seen through what it does to its pipes: it writes, reads byte by byte, lets
time pass, closes an end, and exits. What it does next may depend on what it read, on whether a
write found a reader, and on nothing else.
-/

namespace ActionServer

/-- What reading one byte gives. -/
inductive Input where
  | byte (b : UInt8)
  | ended
  | timedOut
  deriving DecidableEq, Repr

inductive Child where
  /-- Goes on without doing anything that can be seen. -/
  | tick (next : Unit → Child)
  /-- Writes to its standard output and learns whether anyone reads it. -/
  | write (bytes : List UInt8) (next : Bool → Child)
  /-- Writes to its standard error and learns whether anyone reads it. -/
  | complain (bytes : List UInt8) (next : Bool → Child)
  /-- Reads a byte from its standard input, waiting for it without or with a limit in
  milliseconds. -/
  | read (limit : Option Nat) (next : Input → Child)
  | closeInput (next : Unit → Child)
  | closeOutput (next : Unit → Child)
  | sleep (ms : Nat) (next : Unit → Child)
  /-- Ends with an exit code, or killed by a signal. -/
  | exit (code : Option Nat)
  /-- Never ends and does nothing more. -/
  | hang

namespace Child

/-- Runs a script that nobody talks to: there is nothing to read, and all that it writes is taken. How
it ended, and its standard error; nothing if that takes too long. The complaints so far come last
first. -/
def alone (limit : Nat) : Child → (elapsed : Nat) → (complaints : List (List UInt8)) →
    Option (Option Nat × List UInt8)
  | .tick next, elapsed, complaints => alone limit (next ()) elapsed complaints
  | .write _ next, elapsed, complaints => alone limit (next true) elapsed complaints
  | .complain bytes next, elapsed, complaints =>
    alone limit (next true) elapsed (bytes :: complaints)
  | .read _ next, elapsed, complaints => alone limit (next .ended) elapsed complaints
  | .closeInput next, elapsed, complaints => alone limit (next ()) elapsed complaints
  | .closeOutput next, elapsed, complaints => alone limit (next ()) elapsed complaints
  | .sleep ms next, elapsed, complaints =>
    if elapsed + ms < limit then alone limit (next ()) (elapsed + ms) complaints else none
  | .exit code, _, complaints => some (code, complaints.reverse.flatten)
  | .hang, _, _ => none

end Child

end ActionServer
