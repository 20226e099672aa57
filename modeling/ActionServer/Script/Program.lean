import ActionServer.Script.Executable
import ActionServer.Store.Reference

/-!
# Programs

A program is an action written as a list of steps: commands like those of a script, direct uses of
the domain, and ways to fail. It notes what its commands lead to. Texts in a step may refer to
identities made before the step runs.
-/

namespace ActionServer

inductive ProgramStep where
  /-- A command, written as a value. -/
  | command (shape : Json)
  /-- Puts the context into the view. -/
  | showContext
  /-- Notes what a script would be told first. -/
  | noteOpening
  | fail (cause : Failure)
  | failIfErrors (message : String)
  | store (element : Document)
  | fetch (query : Option Json)
  | require (name : String)
  | call (method path : String) (body : Option Json)
  /-- Writes into the view without regard to what is hidden. -/
  | insertRaw (key : String) (value : Json)
  /-- Notes the state of the domain. -/
  | report
  | panic (payload : Option String)

namespace StoreError

def mapText (f : String → String) : StoreError → StoreError
  | notConfigured action => .notConfigured (f action)
  | notFound collection target => .notFound (f collection) (f target)
  | invalidDocument reason => .invalidDocument (f reason)
  | backend reason => .backend (f reason)

end StoreError

namespace ClientError

def mapText (f : String → String) : ClientError → ClientError
  | notConfigured => .notConfigured
  | invalidRequest reason => .invalidRequest (f reason)
  | .status code reason => .status code (f reason)
  | transport reason => .transport (f reason)

end ClientError

namespace LibraryError

def mapText (f : String → String) : LibraryError → LibraryError
  | notConfigured => .notConfigured
  | invalidName name => .invalidName (f name)
  | notFound name => .notFound (f name)

end LibraryError

namespace Failure

def mapText (f : String → String) : Failure → Failure
  | failed reason => .failed (f reason)
  | timeout elapsedMs => .timeout elapsedMs
  | exited code stderr => .exited code (f stderr)
  | protocol reason => .protocol (f reason)
  | panicked reason => .panicked (f reason)
  | store cause => .store (cause.mapText f)
  | client cause => .client (cause.mapText f)
  | library cause => .library (cause.mapText f)
  | io reason => .io (f reason)

end Failure

namespace ProgramStep

/-- Changes every text in a step. -/
def mapText (f : String → String) : ProgramStep → ProgramStep
  | command shape => .command (shape.mapText f)
  | showContext => .showContext
  | noteOpening => .noteOpening
  | fail cause => .fail (cause.mapText f)
  | failIfErrors message => .failIfErrors (f message)
  | store element => .store (element.mapText f)
  | fetch query => .fetch (query.map (·.mapText f))
  | require name => .require (f name)
  | call method path body => .call (f method) (f path) (body.map (·.mapText f))
  | insertRaw key value => .insertRaw (f key) (value.mapText f)
  | report => .report
  | panic payload => .panic (payload.map f)

/-- Runs one step; an ending stops the program. -/
def run (context : Context) (d : Domain) (w : World) :
    ProgramStep → Option Ending × Domain × World
  | command shape =>
    match Command.ofJson shape with
    | .error fault => (some (.failed (.protocol fault.message)), d, w)
    | .ok c =>
      let (step, d, w) := d.apply c w
      let w := w.note step.toJson
      match step with
      | .done none => (some .finished, d, w)
      | .done (some message) => (some (.failed (.failed message)), d, w)
      | _ => (none, d, w)
  | showContext => (none, d.set "context" context.toJson, w)
  | noteOpening => (none, d, w.note (Session.opening context d.data))
  | fail cause => (some (.failed cause), d, w)
  | failIfErrors message => (if d.hasErrors then some (.failed (.failed message)) else none, d, w)
  | store element =>
    match d.store element w with
    | (.ok record, w) => (none, d.set "stored" record.toJson, w)
    | (.error e, w) => (some (.failed (.store e)), d, w)
  | fetch query =>
    match d.fetch (.ofOption query) w with
    | (.ok found, w) => (none, d.set "fetched" found.toJson, w)
    | (.error e, w) => (some (.failed (.store e)), d, w)
  | require name =>
    match d.require name with
    | .ok path => (none, d.set "required" (.string path), w)
    | .error e => (some (.failed (.library e)), d, w)
  | call method path body =>
    match d.call method path body w with
    | (.ok v, w) => (none, d.set "called" v, w)
    | (.error e, w) => (some (.failed (.client e)), d, w)
  | insertRaw key value => (none, d.insertRaw key value, w)
  | report =>
    (none, d, w.note (Json.ofFields [
      ("errors", d.errors.toJson), ("has_errors", .bool d.hasErrors),
      ("action", .string d.action), ("data", d.data.toJson)]))
  | panic payload => (some (.panicked payload), d, w)

end ProgramStep

/-- A program as a list of steps. -/
structure Program where
  steps : List ProgramStep

namespace Program

/-- Runs steps until one of them ends the program. -/
def runSteps (context : Context) : List ProgramStep → Domain → World → Ending × Domain × World
  | [], d, w => (.finished, d, w)
  | step :: rest, d, w =>
    match (step.mapText w.stores.resolve).run context d w with
    | (some ending, d, w) => (ending, d, w)
    | (none, d, w) => runSteps context rest d w

def executable (p : Program) : Executable :=
  ⟨fun context d w => runSteps context p.steps d w⟩

end Program

end ActionServer
