import ActionServer.Proofs.Script.Exchange
import ActionServer.Script.Process

/-!
# What a run of a script does

A run that its deadline does not cut short is decided by the text that the script writes and, if
that text does not end the session with an error, by the way the script exits. Pieces, pauses and
pipes have no part in it, nor has a line that does not begin as a command.
-/

namespace ActionServer.Exchange

/-- An exchange starts with the opening line said and the conversation before it. -/
theorem start_follows (context : Context) (d : Domain) (w : World) (limit : Nat) :
    Follows d w (lineBytes (Session.opening context d.data).text)
      (start context d w limit) := by
  refine ⟨[], rfl, ⟨[], ?_, fun _ => rfl⟩, fun more _ => ?_⟩
  · simp [start]
  · simp [start, written, outlook]

section

variable {d : Domain} {w : World} {opening : List UInt8} {x : Exchange} {ending : Ending}
  {output : String} {unsaid : List UInt8}

/-- What ends an exchange in time: a failure of the conversation or, after all of it, the exit. -/
private def Verdict (ending : Ending) (x : Exchange) : Option Failure → Prop
  | some cause => ending = .failed cause
  | none => ∃ code, x.status = some code ∧ ending = x.exited code

/-- An exchange that ends in time has nothing left to hear, whatever was still to be written. -/
private theorem Concludes.settled (kept : Concludes d w opening (ending, x))
    (timely : ∀ ms, ending ≠ .failed (.timeout ms)) (unsaid : List UInt8) :
    ∃ replies outlook failure, Tells d w opening x replies outlook ∧
      outlook unsaid = ⟨[], x.domain, x.world, failure⟩ ∧ Verdict ending x failure := by
  cases kept with
  | timeout => exact absurd rfl (timely _)
  | broken left =>
    obtain ⟨replies, told⟩ := left
    exact ⟨replies, _, some _, told, rfl, rfl⟩
  | exited left closed mute status =>
    obtain ⟨replies, told⟩ := left
    exact ⟨replies, _, none, told, by simp [outlook, closed], _, status, rfl⟩

/-- When nothing is left to hear, domain, world, answers and failure are those of the script. -/
private theorem Tells.script {replies : List Reply} {outlook : List UInt8 → Talk}
    {failure : Option Failure} (now : Tells d w opening x replies outlook)
    (wrote : x.written ++ unsaid = Utf8.encode output) (whole : x.mute = true → unsaid = [])
    (spent : outlook unsaid = ⟨[], x.domain, x.world, failure⟩) :
    let (commands, close) := Session.script (Session.candidates output)
    let (steps, e, v) := d.applyAll w commands
    x.domain = e ∧ x.world = v ∧ replies = steps.filterMap Step.reply? ∧
      close.failure? = failure := by
  have talk := now.talk unsaid whole
  rw [wrote, Domain.converse_encode, spent] at talk
  simp only [Session.talk, Talk.after, List.append_nil, Talk.mk.injEq] at talk
  exact ⟨talk.2.1.symm, talk.2.2.1.symm, talk.1.symm, talk.2.2.2⟩

/-- The exit decides where the session closes well. -/
private theorem Verdict.exit (verdict : Verdict ending x none) :
    ∃ code, x.status = some code ∧ (code = some 0 → ending = .finished) ∧
      (code ≠ some 0 → ∃ stderr,
        ending = .failed (.exited (match code with | some n => n | none => -1) stderr)) := by
  obtain ⟨code, status, left⟩ := verdict
  refine ⟨code, status, ?_, fun other => ?_⟩
  · rintro rfl
    exact left
  · rw [left, exited.eq_def]
    split
    · exact absurd rfl other
    · exact ⟨_, rfl⟩

end

/-- **A run does what the script says.** If the time does not run out, the commands of the output
are carried out in their order, up to the first `done` or the first line that is none; each question
gets one line and nothing else gets any; and the run ends as the session closes or, where it closes
well, as the script exits. Lines that do not begin as a command change nothing. -/
theorem run_carries_out_script {child : Child} {context : Context} {d : Domain} {w : World}
    {limit : Nat} {ending : Ending} {x : Exchange} {output : String} {unsaid : List UInt8}
    (ran : run child (start context d w limit) = (ending, x))
    (timely : ∀ ms, ending ≠ .failed (.timeout ms))
    (wrote : x.written ++ unsaid = Utf8.encode output)
    (whole : x.mute = true → unsaid = []) :
    let (commands, close) := Session.script (Session.candidates output)
    let (steps, e, v) := d.applyAll w commands
    (x.domain = e ∧ x.world = v) ∧
    (x.said.reverse = lineBytes (Session.opening context d.data).text ::
        (steps.filterMap Step.reply?).map (fun r => lineBytes r.toJson.text) ∧
      x.heard.reverse <+: x.said.reverse.flatten ∧
      steps.map (·.reply?.isSome) = commands.map Command.asks) ∧
    (match close with
      | .garbled line fault =>
        ending = .failed (.protocol s!"Bad command {line}: {fault.message}")
      | .done (some error) => ending = .failed (.failed (Session.doneMessage error))
      | .done none | .ended => ∃ code, x.status = some code ∧
          (code = some 0 → ending = .finished) ∧
          (code ≠ some 0 → ∃ stderr,
            ending = .failed (.exited (match code with | some n => n | none => -1) stderr))) ∧
    (∀ (noisy : String) (before noise after : List (List Char)),
      output.toList.splitOn '\n' = before ++ after →
      noisy.toList.splitOn '\n' = before ++ noise ++ after →
      (∀ line ∈ noise, Session.begins (Text.trim (String.ofList line)) = false) →
      Session.script (Session.candidates noisy) = (commands, close)) ∧
    (∀ (s : ProcessSettings) (path : String) (files : FileSystem) (i : Interpreter),
      s.workplace path = some files → s.findInterpreter files [path, context.action] = .ok i →
      s.timeoutMs = limit → limit ≠ 0 →
      i.start ⟨files, [(ProcessSettings.nameVariable, context.action)], true⟩ [path] = child →
      s.run path context d w = (ending, e, v)) := by
  have kept := run_concludes child (start_follows context d w limit)
  rw [ran] at kept
  obtain ⟨replies, outlook, failure, told, spent, verdict⟩ := kept.settled timely unsaid
  obtain ⟨domain, world, answers, closes⟩ := told.script wrote whole spent
  obtain ⟨rest, heard, -⟩ := told.heard
  refine ⟨⟨domain, world⟩, ⟨?_, ?_, d.isSome_reply?_applyAll w _⟩, ?_, ?_, ?_⟩
  · rw [told.said, answers]
    rfl
  · exact ⟨x.outgoing ++ rest, by rw [heard, List.append_assoc]⟩
  · generalize (Session.script (Session.candidates output)).2 = close at closes
    subst closes
    cases close with
    | ended => exact Verdict.exit verdict
    | garbled line fault => exact verdict
    | done error =>
      cases error with
      | none => exact Verdict.exit verdict
      | some error => exact verdict
  · intro noisy before noise after parts noisyParts idle
    rw [Session.candidates_noise parts noisyParts idle]
  · intro s path files i place found same positive started
    subst same
    simp only [ProcessSettings.run, place, found, if_neg positive, started, ran]
    rw [domain, world]

/-- A script that says something else first, asks one question and is done. -/
theorem run_carries_out_script_question :
    let output := "hello\n\x7b\"op\":\"has_errors\"\x7d\n\x7b\"op\":\"done\"\x7d\n"
    let bytes := output.toList.flatMap String.utf8EncodeChar
    let child := Child.closeInput fun _ => .write bytes fun _ => .exit (some 0)
    let context : Context := ⟨"ask", "GET", "/action/ask", ∅, ∅, false⟩
    let d := Domain.new "ask" ∅ ⟨"ask", none⟩ .disabled none
    let w := World.ofStores (.new (fun _ _ => "x") .memory {})
    let x := (run child (start context d w 1000)).2
    (run child (start context d w 1000)).1 = .finished ∧ x.written ++ [] = Utf8.encode output ∧
      x.said.reverse = lineBytes (Session.opening context d.data).text ::
        ((d.applyAll w (Session.script (Session.candidates output)).1).1.filterMap Step.reply?).map
          (fun r => lineBytes r.toJson.text) := by
  intro output bytes child context d w x
  have ended : (run child (start context d w 1000)).1 = .finished := by decide +kernel
  have wrote : x.written ++ [] = Utf8.encode output := by
    rw [Utf8.encode_eq]
    decide +kernel
  exact ⟨ended, wrote,
    (run_carries_out_script (Prod.ext ended rfl) (by simp) wrote (fun _ => rfl)).2.1.1⟩

end ActionServer.Exchange
