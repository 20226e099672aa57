import ActionServer.Script.Child
import ActionServer.Script.Executable
import ActionServer.Text.Blank

/-!
# The exchange with a script

The host writes the opening line and then takes the output of the script line by line. A line that
is blank or is no JSON object is passed over; any other has to be a command, which is applied, and
whose answer is written back. The exchange is over when the script is done or closes its output;
then the host closes its ends and waits for the script to exit.

A pipe holds a limited number of bytes. While more than that is on its way to the script, the host
is held up in writing and takes no further line. All of it has to happen before a deadline; the
clock is moved by what the script sleeps or waits for.
-/

namespace ActionServer

/-- What a line of output leads to. -/
inductive Hearing where
  /-- Nothing to write back. -/
  | quiet
  | answer (reply : Reply)
  | done
  | failed (cause : Failure)

/-- Takes one line of output. -/
def Domain.hear (d : Domain) (line : List UInt8) (w : World) : Hearing × Domain × World :=
  match Utf8.decode line with
  | .error fault => (.failed (.io fault.message), d, w)
  | .ok s =>
    let s := Text.trim s
    if s.toList.head? != some '\x7b' then (.quiet, d, w)
    else
      match Command.ofText s with
      | .error fault => (.failed (.protocol s!"Bad command {s}: {fault.message}"), d, w)
      | .ok command =>
        match d.apply command w with
        | (.proceed, d, w) => (.quiet, d, w)
        | (.reply r, d, w) => (.answer r, d, w)
        | (.done none, d, w) => (.done, d, w)
        | (.done (some message), d, w) => (.failed (.failed message), d, w)

/-- How many bytes a pipe holds. -/
def pipeCapacity : Nat := 65536

/-- How many bytes of a script's standard error are kept; then nobody reads it any more. -/
def complaintLimit : Nat := 1048576

/-- The state of an exchange on the side of the host. -/
structure Exchange where
  domain : Domain
  world : World
  /-- What is on its way to the script. -/
  outgoing : List UInt8
  outgoingSize : Nat
  /-- The script has closed its input. -/
  deaf : Bool
  /-- Output of the script that the host has not taken yet. -/
  incoming : List UInt8
  /-- The script has closed its output. -/
  mute : Bool
  /-- All that the script wrote to its standard output, the latest part first. -/
  output : List (List UInt8)
  /-- The lines that the host wrote for the script, whether it listened or not, the latest first. -/
  said : List (List UInt8)
  /-- The bytes that the script has read, the latest first. -/
  heard : List UInt8
  /-- What the script wrote to its standard error, the latest part first. -/
  complaints : List (List UInt8)
  complaintSize : Nat
  elapsed : Nat
  limit : Nat
  /-- The host takes no more lines and has closed its ends. -/
  closed : Bool
  /-- The exit code of the script, once it has exited; none if it was killed. -/
  status : Option (Option Nat)

namespace Exchange

/-- The bytes of a line for the script. -/
def lineBytes (line : String) : List UInt8 :=
  Utf8.encode line ++ [0x0A]

/-- The exchange after the opening line has been sent off. -/
def start (context : Context) (domain : Domain) (world : World) (limit : Nat) : Exchange :=
  let line := lineBytes (Session.opening context domain.data).text
  { domain, world, outgoing := line, outgoingSize := line.length, deaf := false, incoming := []
    mute := false, output := [], said := [line], heard := [], complaints := [], complaintSize := 0
    elapsed := 0, limit, closed := false, status := none }

/-- Whether the host is held up in writing. -/
def isHeldUp (x : Exchange) : Bool :=
  !x.deaf && x.outgoingSize > pipeCapacity

/-- Sends a line to the script; one that does not listen never gets it. -/
def send (x : Exchange) (line : String) : Exchange :=
  let bytes := lineBytes line
  let x := { x with said := bytes :: x.said }
  if x.deaf then x
  else { x with outgoing := x.outgoing ++ bytes, outgoingSize := x.outgoingSize + bytes.length }

/-- The first line of some output, without its line feed, and what follows. -/
def splitLine? (bytes : List UInt8) : Option (List UInt8 × List UInt8) :=
  match bytes.dropWhile (· != 0x0A) with
  | [] => none
  | _ :: rest => some (bytes.takeWhile (· != 0x0A), rest)

/-- Takes one line; a failure ends everything. -/
def take (x : Exchange) (line : List UInt8) : Except (Failure × Exchange) Exchange :=
  match x.domain.hear line x.world with
  | (.quiet, domain, world) => .ok { x with domain, world }
  | (.answer r, domain, world) => .ok ({ x with domain, world }.send r.toJson.text)
  | (.done, domain, world) => .ok { x with domain, world, closed := true, incoming := [] }
  | (.failed cause, domain, world) => .error (cause, { x with domain, world })

/-- Takes the lines that are there, as long as the host is not held up; `steps` bounds their
number. -/
def takeLines : (steps : Nat) → Exchange → Except (Failure × Exchange) Exchange
  | 0, x => .ok x
  | steps + 1, x =>
    if x.closed || x.isHeldUp then .ok x
    else
      match splitLine? x.incoming with
      | some (line, rest) => do takeLines steps (← take { x with incoming := rest } line)
      | none =>
        if !x.mute then .ok x
        else if x.incoming.isEmpty then .ok { x with closed := true }
        else do
          let x ← take { x with incoming := [] } x.incoming
          .ok { x with closed := true }

/-- Takes what is there. Each line uses up a byte at least. -/
def advance (x : Exchange) : Except (Failure × Exchange) Exchange :=
  takeLines (x.incoming.length + 2) x

/-- The failure of a script that exited with a code other than zero, or was killed. -/
def exited (x : Exchange) (code : Option Nat) : Ending :=
  match code with
  | some 0 => .finished
  | _ =>
    let stderr := Text.trim (Utf8.lossy x.complaints.reverse.flatten)
    .failed (.exited (match code with | some n => n | none => -1) stderr)

/-- Keeps what the script writes to its standard error, as far as there is room. -/
def complain (x : Exchange) (bytes : List UInt8) : Exchange :=
  let kept := bytes.take (complaintLimit - x.complaintSize)
  { x with complaints := kept :: x.complaints, complaintSize := x.complaintSize + kept.length }

/-- The ending when the time is up. -/
def timeout (x : Exchange) : Ending × Exchange :=
  (.failed (.timeout x.limit), x)

/-- Ends with a failure. -/
def fail (e : Failure × Exchange) : Ending × Exchange :=
  (.failed e.1, e.2)

/-- Lets time pass; nothing if that is too much. -/
def wait? (x : Exchange) (ms : Nat) : Option Exchange :=
  if x.elapsed + ms < x.limit then some { x with elapsed := x.elapsed + ms } else none

/-- Runs the exchange to its end. -/
def run : Child → Exchange → Ending × Exchange
  | .tick next, x => run (next ()) x
  | .complain bytes next, x =>
    let heard := x.complaintSize < complaintLimit &&
      x.complaintSize + bytes.length ≤ complaintLimit + pipeCapacity
    run (next heard) (x.complain bytes)
  | .write bytes next, x =>
    if x.mute then run (next false) x
    else
      let x := { x with output := bytes :: x.output }
      if x.closed then run (next false) x
      else
        match advance { x with incoming := x.incoming ++ bytes } with
        | .error e => fail e
        | .ok x =>
          if x.incoming.length > pipeCapacity && x.isHeldUp then timeout x else run (next true) x
  | .read limit next, x =>
    match x.outgoing with
    | b :: rest =>
      let after :=
        { x with outgoing := rest, outgoingSize := x.outgoingSize - 1, heard := b :: x.heard }
      match if x.isHeldUp then advance after else .ok after with
      | .error e => fail e
      | .ok x => run (next (.byte b)) x
    | [] =>
      if x.closed then run (next .ended) x
      else
        match limit with
        | none => timeout x
        | some ms =>
          match x.wait? ms with
          | some x => run (next .timedOut) x
          | none => timeout x
  | .closeInput next, x =>
    match advance { x with deaf := true, outgoing := [], outgoingSize := 0 } with
    | .error e => fail e
    | .ok x => run (next ()) x
  | .closeOutput next, x =>
    match advance { x with mute := true } with
    | .error e => fail e
    | .ok x => run (next ()) x
  | .sleep ms next, x =>
    match x.wait? ms with
    | some x => run (next ()) x
    | none => timeout x
  | .exit code, x =>
    match advance { x with deaf := true, mute := true, status := some code } with
    | .error e => fail e
    | .ok x => (x.exited code, x)
  | .hang, x => timeout x

end Exchange

end ActionServer
