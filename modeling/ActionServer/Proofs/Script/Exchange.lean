import ActionServer.Proofs.Outcome
import ActionServer.Proofs.Script.Session
import Mathlib.Data.List.TakeWhile

/-!
# The exchange keeps to the session

The host gets the output of a script in pieces of any size and takes a line as soon as it is whole,
unless it is held up in writing. Nothing of this can be seen in what it does. The invariant compares
the conversation over the whole output, whatever may still follow, with the one that the host has
still before it: they differ by the answers that have been given.
-/

namespace ActionServer

/-- An empty line is passed over. -/
theorem Domain.hear_nil (d : Domain) (w : World) : d.hear [] w = (.quiet, d, w) := rfl

@[simp] theorem Talk.after_nil (t : Talk) : t.after [] = t := rfl

theorem Talk.after_after (t : Talk) (first second : List Reply) :
    (t.after second).after first = t.after (first ++ second) := by
  simp [Talk.after]

namespace Exchange

/-- The bytes that answer a question. -/
def answer (r : Reply) : List UInt8 :=
  lineBytes r.toJson.text

/-- All that the script has written. -/
def written (x : Exchange) : List UInt8 :=
  x.output.reverse.flatten

/-- The conversation that the host has before it, if more output follows. -/
def outlook (x : Exchange) (more : List UInt8) : Talk :=
  if x.closed then ⟨[], x.domain, x.world, none⟩
  else x.domain.converse x.world ((x.incoming ++ more).splitOn 0x0A)

section

variable (d : Domain) (w : World) (opening : List UInt8)

/-- An exchange that began with a domain and an opening line: it has given answers, and what may
still come is what the whole output makes of the beginning. A script that has closed its output
writes no more. -/
structure Tells (x : Exchange) (replies : List Reply) (outlook : List UInt8 → Talk) : Prop where
  said : x.said.reverse = opening :: replies.map answer
  heard : ∃ rest, x.said.reverse.flatten = x.heard.reverse ++ x.outgoing ++ rest ∧
    (x.deaf = false → rest = [])
  talk : ∀ more, (x.mute = true → more = []) →
    d.converse w ((x.written ++ more).splitOn 0x0A) = (outlook more).after replies

/-- An exchange that goes on. -/
def Follows (x : Exchange) : Prop :=
  ∃ replies, Tells d w opening x replies x.outlook

/-- An exchange that a failure has ended. -/
def Broken (cause : Failure) (x : Exchange) : Prop :=
  ∃ replies, Tells d w opening x replies fun _ => ⟨[], x.domain, x.world, some cause⟩

/-- What taking lines leads to. -/
def Settles : Except (Failure × Exchange) Exchange → Prop
  | .ok x => Follows d w opening x
  | .error (cause, x) => Broken d w opening cause x

end

variable {d : Domain} {w : World} {opening : List UInt8}

/-! ### Taking lines -/

private theorem Tells.send {x : Exchange} {replies : List Reply} {outlook : List UInt8 → Talk}
    {e : Domain} {v : World} (r : Reply)
    (now : Tells d w opening x replies fun more => (outlook more).after [r]) :
    Tells d w opening ({ x with domain := e, world := v }.send r.toJson.text) (replies ++ [r])
      outlook := by
  obtain ⟨rest, whole, listening⟩ := now.heard
  have same : ∀ y : Exchange, (y.send r.toJson.text).said = answer r :: y.said ∧
      (y.send r.toJson.text).mute = y.mute ∧ (y.send r.toJson.text).deaf = y.deaf ∧
      (y.send r.toJson.text).heard = y.heard ∧ (y.send r.toJson.text).written = y.written ∧
      (y.send r.toJson.text).outgoing = if y.deaf then y.outgoing else y.outgoing ++ answer r := by
    intro y
    cases deaf : y.deaf <;> simp [Exchange.send, deaf, answer, written]
  obtain ⟨said, mute, deaf, heard, written, outgoing⟩ := same { x with domain := e, world := v }
  refine ⟨?_, ?_, ?_⟩
  · simp [said, now.said]
  · rw [said, deaf, heard, outgoing]
    -- A script that does not listen any more gets nothing; what it has read stays a beginning.
    cases listens : x.deaf with
    | true => exact ⟨rest ++ answer r, by simp [whole], by simp⟩
    | false => exact ⟨[], by simp [whole, listening listens], fun _ => rfl⟩
  · intro more allowed
    rw [written]
    refine (now.talk more (fun muted => allowed (by rw [mute]; exact muted))).trans ?_
    rw [Talk.after_after]

/-- Taking one line brings the exchange past it. -/
private theorem take_settles {x : Exchange} {line : List UInt8} {replies : List Reply}
    (ongoing : x.closed = false)
    (now : Tells d w opening x replies fun more =>
      x.domain.converse x.world (line :: (x.incoming ++ more).splitOn 0x0A)) :
    Settles d w opening (x.take line) := by
  rcases heard : x.domain.hear line x.world with ⟨hearing, e, v⟩
  simp only [Domain.converse, heard] at now
  simp only [take, heard]
  cases hearing with
  | quiet =>
    exact ⟨replies, now.said, now.heard, fun more allowed =>
      (now.talk more allowed).trans (by simp [outlook, ongoing])⟩
  | answer r =>
    refine ⟨replies ++ [r], ?_⟩
    have sent := Tells.send (e := e) (v := v) r now
    have pending : ({ x with domain := e, world := v }.send r.toJson.text).outlook =
        fun more => e.converse v ((x.incoming ++ more).splitOn 0x0A) := by
      funext more
      cases deaf : x.deaf <;> simp [outlook, Exchange.send, ongoing]
    rw [pending]
    exact sent
  | done =>
    exact ⟨replies, now.said, now.heard, fun more allowed =>
      (now.talk more allowed).trans (by simp [outlook])⟩
  | failed cause => exact ⟨replies, now.said, now.heard, now.talk⟩

/-- What taking a line leaves alone. -/
private theorem take_eq_ok {x y : Exchange} {line : List UInt8} (taken : x.take line = .ok y) :
    y.mute = x.mute ∧ y.deaf = x.deaf ∧ y.status = x.status ∧
      (y.incoming = x.incoming ∨ y.incoming = []) := by
  simp only [take] at taken
  split at taken
  · cases taken
    exact ⟨rfl, rfl, rfl, .inl rfl⟩
  · cases taken
    simp only [Exchange.send]
    split <;> exact ⟨rfl, rfl, rfl, .inl rfl⟩
  · cases taken
    exact ⟨rfl, rfl, rfl, .inr rfl⟩
  · cases taken

private theorem splitLine?_eq_some {bytes line rest : List UInt8}
    (parts : splitLine? bytes = some (line, rest)) :
    bytes = line ++ 0x0A :: rest ∧ 0x0A ∉ line := by
  simp only [splitLine?] at parts
  split at parts
  · cases parts
  · rename_i mark after dropped
    cases parts
    have feed : mark = 0x0A := by
      have stop := List.head?_dropWhile_not (· != 0x0A) bytes
      simpa [dropped] using stop
    refine ⟨?_, fun member => ?_⟩
    · have joined := List.takeWhile_append_dropWhile (p := (· != 0x0A)) (l := bytes)
      rw [dropped, feed] at joined
      exact joined.symm
    · simpa using List.mem_takeWhile_imp member

private theorem splitLine?_eq_none {bytes : List UInt8} (parts : splitLine? bytes = none) :
    0x0A ∉ bytes := by
  simp only [splitLine?] at parts
  split at parts
  · rename_i dropped
    intro member
    simpa using List.dropWhile_eq_nil_iff.mp dropped 0x0A member
  · cases parts

/-- A host that has taken all there is, and will get no more, can close. -/
private theorem Follows.close {x : Exchange} (now : Follows d w opening x)
    (mute : x.mute = true) (empty : x.incoming = []) :
    Follows d w opening { x with closed := true } := by
  obtain ⟨replies, said, heard, talk⟩ := now
  refine ⟨replies, said, heard, fun more allowed => (talk more allowed).trans ?_⟩
  obtain rfl := allowed mute
  cases closed : x.closed <;>
    simp [outlook, closed, empty, Domain.converse, Domain.hear_nil]

/-- Taking lines, any number of them, keeps the invariant: the induction is on the steps, and each
line is one of the conversation's. -/
theorem takeLines_settles (steps : Nat) {x : Exchange} (now : Follows d w opening x) :
    Settles d w opening (takeLines steps x) := by
  induction steps generalizing x with
  | zero => exact now
  | succ steps ih =>
    simp only [takeLines]
    split
    · exact now
    rename_i free
    simp only [Bool.or_eq_true, not_or, Bool.not_eq_true] at free
    obtain ⟨replies, said, heard, talk⟩ := now
    simp only [outlook, free.1, Bool.false_eq_true, if_false] at talk
    split
    · rename_i line rest parts
      obtain ⟨bytes, plain⟩ := splitLine?_eq_some parts
      -- A whole line: what may follow the output follows the rest of it.
      have first : Settles d w opening (take { x with incoming := rest } line) := by
        refine take_settles free.1 ⟨said, heard, fun more allowed => (talk more allowed).trans ?_⟩
        rw [bytes, List.append_assoc, List.cons_append,
          List.splitOn_append_cons_self_of_not_mem plain]
      cases taken : take { x with incoming := rest } line with
      | error e => rw [taken] at first; exact first
      | ok y => rw [taken] at first; exact ih first
    · rename_i parts
      have plain := splitLine?_eq_none parts
      have still : Follows d w opening x := ⟨replies, said, heard, fun more allowed =>
        (talk more allowed).trans (by simp [outlook, free.1])⟩
      split
      · exact still
      -- Without a line feed, only the end of the output makes a line of what is left.
      rename_i shut
      have mute : x.mute = true := by simpa using shut
      split
      · rename_i empty
        exact still.close mute (by simpa using empty)
      · have last : Settles d w opening (take { x with incoming := [] } x.incoming) := by
          refine take_settles free.1 ⟨said, heard, fun more allowed =>
            (talk more allowed).trans ?_⟩
          obtain rfl := allowed mute
          simp [List.splitOn_eq_singleton plain, Domain.converse, Domain.hear_nil]
        cases taken : take { x with incoming := [] } x.incoming with
        | error e => rw [taken] at last; exact last
        | ok y =>
          rw [taken] at last
          obtain ⟨muted, -, -, rest⟩ := take_eq_ok taken
          exact Follows.close last (muted.trans mute) (rest.elim id id)

private theorem takeLines_eq_ok {steps : Nat} {x y : Exchange} (taken : takeLines steps x = .ok y) :
    y.mute = x.mute ∧ y.status = x.status := by
  induction steps generalizing x with
  | zero => cases taken; exact ⟨rfl, rfl⟩
  | succ steps ih =>
    simp only [takeLines] at taken
    split at taken
    · cases taken; exact ⟨rfl, rfl⟩
    split at taken
    · obtain ⟨z, first, later⟩ := eq_ok_of_bind taken
      obtain ⟨mute, -, status, -⟩ := take_eq_ok first
      exact ⟨(ih later).1.trans mute, (ih later).2.trans status⟩
    split at taken
    · cases taken; exact ⟨rfl, rfl⟩
    split at taken
    · cases taken; exact ⟨rfl, rfl⟩
    · obtain ⟨z, first, later⟩ := eq_ok_of_bind taken
      obtain ⟨mute, -, status, -⟩ := take_eq_ok first
      cases later
      exact ⟨mute, status⟩

/-- Once the script has closed its ends, as many steps as there are bytes, and one more, take all
that is left. -/
private theorem takeLines_closed (steps : Nat) {x y : Exchange} (deaf : x.deaf = true)
    (mute : x.mute = true) (enough : x.incoming.length < steps)
    (taken : takeLines steps x = .ok y) : y.closed = true := by
  induction steps generalizing x with
  | zero => omega
  | succ steps ih =>
    simp only [takeLines] at taken
    split at taken
    · rename_i stopped
      cases taken
      simpa [isHeldUp, deaf] using stopped
    split at taken
    · rename_i line rest parts
      obtain ⟨z, first, later⟩ := eq_ok_of_bind taken
      obtain ⟨muted, deafened, -, left⟩ := take_eq_ok first
      refine ih (deafened.trans deaf) (muted.trans mute) ?_ later
      have shorter : z.incoming.length ≤ rest.length := by
        rcases left with same | empty
        · simp [same]
        · simp [empty]
      obtain ⟨bytes, -⟩ := splitLine?_eq_some parts
      simp only [bytes, List.length_append, List.length_cons] at enough
      omega
    · rw [if_neg (by simp [mute])] at taken
      split at taken
      · cases taken
        rfl
      · obtain ⟨z, -, later⟩ := eq_ok_of_bind taken
        cases later
        rfl

/-! ### The run -/

/-- How an exchange with a script can end: the time is up, a failure has ended it, or the script has
exited and everything it wrote has been taken. -/
inductive Concludes (d : Domain) (w : World) (opening : List UInt8) : Ending × Exchange → Prop
  | timeout {ms : Nat} {x : Exchange} (left : Follows d w opening x) :
      Concludes d w opening (.failed (.timeout ms), x)
  | broken {cause : Failure} {x : Exchange} (left : Broken d w opening cause x) :
      Concludes d w opening (.failed cause, x)
  | exited {code : Option Nat} {x : Exchange} (left : Follows d w opening x)
      (closed : x.closed = true) (mute : x.mute = true) (status : x.status = some code) :
      Concludes d w opening (x.exited code, x)

/-- Taking what is there leaves the way the run concludes to what comes after. -/
private theorem concludes_advance {x : Exchange} {next : Exchange → Ending × Exchange}
    (now : Follows d w opening x)
    (later : ∀ y, advance x = .ok y → Follows d w opening y → Concludes d w opening (next y)) :
    Concludes d w opening
      (match advance x with
      | .error e => fail e
      | .ok y => next y) := by
  have taken : Settles d w opening (advance x) := takeLines_settles _ now
  cases outcome : advance x with
  | error e =>
    rw [outcome] at taken
    exact .broken taken
  | ok y =>
    rw [outcome] at taken
    exact later y outcome taken

private theorem concludes_wait {x : Exchange} {ms : Nat} {next : Exchange → Ending × Exchange}
    (now : Follows d w opening x)
    (later : ∀ y, Follows d w opening y → Concludes d w opening (next y)) :
    Concludes d w opening
      (match x.wait? ms with
      | some y => next y
      | none => timeout x) := by
  simp only [wait?]
  split
  · rename_i y waited
    split at waited
    · cases waited
      obtain ⟨replies, said, heard, talk⟩ := now
      exact later _ ⟨replies, said, heard, talk⟩
    · cases waited
  · exact .timeout now

/-- Whatever the script does and in whatever pieces it writes, the exchange keeps to the session. -/
theorem run_concludes (child : Child) {x : Exchange} (now : Follows d w opening x) :
    Concludes d w opening (run child x) := by
  induction child generalizing x with
  | tick next ih => exact ih () now
  | complain bytes next ih =>
    obtain ⟨replies, said, heard, talk⟩ := now
    exact ih _ ⟨replies, said, heard, talk⟩
  | write bytes next ih =>
    rw [run]
    split
    · exact ih _ now
    rename_i unmuted
    have speaking : x.mute = false := by simpa using unmuted
    obtain ⟨replies, said, heard, talk⟩ := now
    -- What is written now is the beginning of what may have followed before.
    have longer : ∀ more, d.converse w (((bytes :: x.output).reverse.flatten ++ more).splitOn 0x0A) =
        (x.outlook (bytes ++ more)).after replies := by
      intro more
      rw [← talk (bytes ++ more) (by simp [speaking])]
      simp [written]
    dsimp only
    split
    · rename_i closed
      refine ih _ ⟨replies, said, heard, fun more _ => (longer more).trans ?_⟩
      simp only [outlook]
      rw [if_pos closed, if_pos closed]
    · rename_i ongoing
      refine concludes_advance ⟨replies, said, heard, fun more _ => (longer more).trans ?_⟩
        fun y _ later => ?_
      · simp only [outlook]
        rw [if_neg ongoing, if_neg ongoing, List.append_assoc]
      · split
        · exact .timeout later
        · exact ih _ later
  | read limit next ih =>
    rw [run.eq_def]
    dsimp only
    split
    · rename_i b rest outgoing
      obtain ⟨replies, said, ⟨later, whole, listening⟩, talk⟩ := now
      have after : Follows d w opening
          { x with outgoing := rest, outgoingSize := x.outgoingSize - 1, heard := b :: x.heard } :=
        ⟨replies, said, ⟨later, by simp [whole, outgoing], listening⟩, talk⟩
      by_cases held : x.isHeldUp = true
      · rw [if_pos held]
        exact concludes_advance after fun y _ resumed => ih _ resumed
      · rw [if_neg held]
        exact ih _ after
    · split
      · exact ih _ now
      split
      · exact .timeout now
      · exact concludes_wait now fun y later => ih _ later
  | closeInput next ih =>
    rw [run]
    refine concludes_advance ?_ fun y _ later => ih () later
    obtain ⟨replies, said, ⟨rest, whole, -⟩, talk⟩ := now
    exact ⟨replies, said, ⟨x.outgoing ++ rest, by simp [whole], by simp⟩, talk⟩
  | closeOutput next ih =>
    rw [run]
    refine concludes_advance ?_ fun y _ later => ih () later
    obtain ⟨replies, said, heard, talk⟩ := now
    exact ⟨replies, said, heard, fun more allowed => allowed rfl ▸ talk [] fun _ => rfl⟩
  | sleep ms next ih =>
    rw [run]
    exact concludes_wait now fun y later => ih () later
  | exit code =>
    rw [run]
    obtain ⟨replies, said, ⟨rest, whole, -⟩, talk⟩ := now
    refine concludes_advance ⟨replies, said, ⟨rest, whole, by simp⟩,
      fun more allowed => allowed rfl ▸ talk [] fun _ => rfl⟩ fun y taken later => ?_
    -- Nothing can hold the host up any more, so it has come to the end.
    obtain ⟨mute, status⟩ := takeLines_eq_ok taken
    have closed := takeLines_closed _ rfl rfl (by simp) taken
    exact .exited later closed mute status
  | hang => exact .timeout now

end Exchange

end ActionServer
