import ActionServer.Proofs.Text.Utf8
import ActionServer.Script.Exchange

/-!
# What a session says

The output of a script as a whole: the lines of it that may hold a command, and the commands that
are carried out, which end with the first `done` or before the first line that is none. The host
never sees the output as a whole. It hears line after line, in bytes, and stops by itself; `converse`
is what comes of that, and it is the same.
-/

namespace ActionServer

namespace Session

/-- Whether a line, once trimmed, begins as a command does. -/
def begins (line : String) : Bool :=
  line.toList.head? == some '\x7b'

/-- The lines of an output that have to be commands, without the blanks around them. -/
def candidates (output : String) : List String :=
  ((output.toList.splitOn '\n').map fun line => Text.trim (String.ofList line)).filter begins

/-- Why the commands of a session end. -/
inductive Close where
  | ended
  | done (error : Option Json)
  /-- A line is no command. -/
  | garbled (line : String) (fault : ShapeFault)

/-- The failure in the way a session closes. -/
def Close.failure? : Close → Option Failure
  | ended | done none => none
  | done (some error) => some (.failed (doneMessage error))
  | garbled line fault => some (.protocol s!"Bad command {line}: {fault.message}")

/-- The commands that lines lead to: up to and with the first `done`, or up to the first line that
is no command. -/
def script : List String → List Command × Close
  | [] => ([], .ended)
  | line :: rest =>
    match Command.ofText line with
    | .error fault => ([], .garbled line fault)
    | .ok (.done error) => ([.done error], .done error)
    | .ok command => (command :: (script rest).1, (script rest).2)

end Session

/-- The answer that a step writes back. -/
def Step.reply? : Step → Option Reply
  | reply answer => some answer
  | _ => none

/-- Whether a command is a question. -/
def Command.asks : Command → Bool
  | hasErrors | data | store _ | fetch _ | require _ | call _ _ _ => true
  | _ => false

/-- Commands one after the other. -/
def Domain.applyAll (d : Domain) (w : World) : List Command → List Step × Domain × World
  | [] => ([], d, w)
  | command :: rest =>
    let (step, d, w) := d.apply command w
    let (steps, d, w) := applyAll d w rest
    (step :: steps, d, w)

/-- What comes of a conversation: the answers in their order, the domain and the world, and what
broke it off. -/
structure Talk where
  replies : List Reply
  domain : Domain
  world : World
  failure : Option Failure

/-- A conversation after answers that were given before. -/
def Talk.after (t : Talk) (replies : List Reply) : Talk :=
  { t with replies := replies ++ t.replies }

/-- Lines of output one after the other, as far as they are heard. -/
def Domain.converse (d : Domain) (w : World) : List (List UInt8) → Talk
  | [] => ⟨[], d, w, none⟩
  | line :: rest =>
    match d.hear line w with
    | (.quiet, d, w) => converse d w rest
    | (.answer r, d, w) => (converse d w rest).after [r]
    | (.done, d, w) => ⟨[], d, w, none⟩
    | (.failed cause, d, w) => ⟨[], d, w, some cause⟩

/-- The conversation that the commands of a session make. -/
def Session.talk (d : Domain) (w : World) (lines : List String) : Talk :=
  let (steps, e, v) := d.applyAll w (script lines).1
  ⟨steps.filterMap Step.reply?, e, v, (script lines).2.failure?⟩

/-- A question is answered and nothing else is, whatever becomes of it. -/
theorem Domain.isSome_reply?_apply (d : Domain) (command : Command) (w : World) :
    (d.apply command w).1.reply?.isSome = command.asks := by
  cases command <;> rfl

theorem Domain.isSome_reply?_applyAll (d : Domain) (w : World) (commands : List Command) :
    (d.applyAll w commands).1.map (·.reply?.isSome) = commands.map Command.asks := by
  induction commands generalizing d w with
  | nil => rfl
  | cons command rest ih =>
    simp only [applyAll, List.map_cons]
    rw [isSome_reply?_apply, ih]

namespace Session

theorem candidates_of_lines {output : String} {lines : List (List Char)}
    (parts : output.toList.splitOn '\n' = lines) :
    candidates output = (lines.map fun line => Text.trim (String.ofList line)).filter begins := by
  rw [candidates, parts]

/-- Lines that do not begin as a command can be put anywhere. -/
theorem candidates_noise {output noisy : String} {before noise after : List (List Char)}
    (parts : output.toList.splitOn '\n' = before ++ after)
    (noisyParts : noisy.toList.splitOn '\n' = before ++ noise ++ after)
    (idle : ∀ line ∈ noise, begins (Text.trim (String.ofList line)) = false) :
    candidates noisy = candidates output := by
  have none : (noise.map fun line => Text.trim (String.ofList line)).filter begins = [] := by
    simpa [List.filter_eq_nil_iff] using idle
  rw [candidates_of_lines parts, candidates_of_lines noisyParts]
  simp only [List.map_append, List.filter_append, none, List.append_nil]

end Session

/-! ### Lines in bytes -/

private theorem splitOn_append {α : Type} [BEq α] [LawfulBEq α] {mark : α} {plain : List α}
    (absent : mark ∉ plain) (rest : List α) :
    (plain ++ rest).splitOn mark = (rest.splitOn mark).modifyHead (plain ++ ·) := by
  induction plain with
  | nil =>
    obtain ⟨first, more, parts⟩ := List.exists_cons_of_ne_nil (List.splitOn_ne_nil mark rest)
    simp [parts]
  | cons b plain ih =>
    simp only [List.mem_cons, not_or] at absent
    have other : (b == mark) = false := by simpa using Ne.symm absent.1
    obtain ⟨first, more, parts⟩ := List.exists_cons_of_ne_nil (List.splitOn_ne_nil mark rest)
    simp [List.splitOn_cons_eq_if_modifyHead, other, ih absent.2, parts]

/-- The lines of an output are the same in bytes. -/
theorem splitOn_encode (output : String) :
    (Utf8.encode output).splitOn 0x0A =
      (output.toList.splitOn '\n').map fun line => Utf8.encode (String.ofList line) := by
  simp only [Utf8.encode_eq, String.toList_ofList]
  induction output.toList with
  | nil => rfl
  | cons c rest ih =>
    rw [List.flatMap_cons, List.splitOn_cons_eq_if_modifyHead]
    by_cases newline : c = '\n'
    · subst newline
      simp [Utf8.utf8EncodeChar_newline, List.splitOn_cons_eq_if_modifyHead, ih]
    · -- The bytes of any other character stay on its line.
      obtain ⟨first, more, parts⟩ := List.exists_cons_of_ne_nil (List.splitOn_ne_nil '\n' rest)
      rw [splitOn_append (Utf8.newline_notMem_utf8EncodeChar newline), ih, parts]
      simp [newline]

/-- What a line of text leads to. -/
theorem Domain.hear_encode (d : Domain) (line : String) (w : World) :
    d.hear (Utf8.encode line) w =
      if Session.begins (Text.trim line) then
        match Command.ofText (Text.trim line) with
        | .error fault =>
          (.failed (.protocol s!"Bad command {Text.trim line}: {fault.message}"), d, w)
        | .ok (.done error) =>
          match error with
          | none => (.done, d, w)
          | some error => (.failed (.failed (Session.doneMessage error)), d, w)
        | .ok command =>
          match (d.apply command w).1.reply? with
          | none => (.quiet, (d.apply command w).2)
          | some r => (.answer r, (d.apply command w).2)
      else (.quiet, d, w) := by
  simp only [hear, Utf8.decode_encode, Session.begins]
  by_cases starts : (Text.trim line).toList.head? = some '\x7b'
  · simp only [starts, bne_self_eq_false, beq_self_eq_true, if_true, Bool.false_eq_true, if_false]
    cases Command.ofText (Text.trim line) with
    | error fault => rfl
    | ok command =>
      cases command with
      | done error => cases error <;> rfl
      | error | hide | set | merge | hasErrors | data | store | fetch | require | call => rfl
  · simp [starts]

/-- Hearing the lines of a text one by one is carrying out its script. -/
theorem Domain.converse_encode (d : Domain) (w : World) (output : String) :
    d.converse w ((Utf8.encode output).splitOn 0x0A) =
      Session.talk d w (Session.candidates output) := by
  rw [splitOn_encode, Session.candidates]
  generalize output.toList.splitOn '\n' = lines
  -- Each command changes domain and world, so the induction is for all of them.
  induction lines generalizing d w with
  | nil => rfl
  | cons line rest ih =>
    simp only [List.map_cons, converse, hear_encode]
    cases starts : Session.begins (Text.trim (String.ofList line)) with
    | false => simp [starts, ih]
    | true =>
      simp only [List.filter_cons, starts, if_true, Session.talk, Session.script]
      cases Command.ofText (Text.trim (String.ofList line)) with
      | error fault => rfl
      | ok command =>
        cases command with
        | done error => cases error <;> rfl
        | error | hide | set | merge | hasErrors | data | store | fetch | require | call =>
          simp only [ih, Session.talk]
          rfl

end ActionServer
