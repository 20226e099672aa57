import ActionServer.Proofs.Json.Plain
import ActionServer.Proofs.Script.Process

/-!
# Lines for the script

A script tells the messages of its host apart by their lines. Each message is the compact text of
one object and a line feed, and no line feed stands in the text, whatever strings the object holds.
So what the host writes falls into the opening and the answers again, and each of them is read as
what it was.
-/

namespace ActionServer

/-! ### The two kinds of messages -/

theorem Json.isPlain_pair {key other : String} (before : key < other) {x y : Json}
    (first : x.IsPlain) (second : y.IsPlain) : (object [(key, x), (other, y)]).IsPlain := by
  refine ⟨?_, ?_⟩
  · simp [all, allFields, isWhole, first.1, second.1]
  · simp [all, allFields, isOrdered_pair before, first.2, second.2]

theorem Context.isPlain_toJson {c : Context} (query : c.query.toJson.IsPlain)
    (body : c.body.toJson.IsPlain) : c.toJson.IsPlain := by
  have keys : (["action", "body", "internal", "method", "query", "url"] : List String).Pairwise
      (· < ·) := by decide +kernel
  have ordered : Json.isOrdered (.object [("action", .string c.action), ("body", c.body.toJson),
      ("internal", .bool c.internal), ("method", .string c.method), ("query", c.query.toJson),
      ("url", .string c.url)]) = true := decide_eq_true (List.pairwise_map.mp keys)
  rw [toJson, Json.ofFields_of_ordered ordered]
  refine ⟨?_, ?_⟩
  · simp [Json.all, Json.allFields, Json.isWhole, query.1, body.1]
  · rw [Json.all, ordered]
    simp [Json.all, Json.allFields, Json.isOrdered, query.2, body.2]

theorem Session.opening_eq (context : Context) (data : Document) :
    opening context data = .object [("context", context.toJson), ("data", data.toJson)] :=
  Json.ofFields_pair (by decide +kernel) _ _

theorem Session.isPlain_opening {context : Context} {data : Document}
    (query : context.query.toJson.IsPlain) (body : context.body.toJson.IsPlain)
    (view : data.toJson.IsPlain) : (opening context data).IsPlain := by
  rw [opening_eq]
  exact Json.isPlain_pair (by decide +kernel) (Context.isPlain_toJson query body) view

namespace Reply

theorem toJson_eq (r : Reply) :
    r.toJson = .object [("error", Json.ofOption r.error), ("result", r.result)] :=
  Json.ofFields_pair (by decide +kernel) _ _

theorem isPlain_toJson {r : Reply} (result : r.result.IsPlain) : r.toJson.IsPlain := by
  have error : (Json.ofOption r.error).IsPlain := by cases r.error <;> exact ⟨rfl, rfl⟩
  rw [toJson_eq]
  exact Json.isPlain_pair (by decide +kernel) error result

/-- Whether the answer has a result only if it has no error. -/
def IsOneSided (r : Reply) : Prop :=
  r.error ≠ none → r.result = .null

theorem isOneSided_ofResult (v : Json) : (ofResult v).IsOneSided := fun error => absurd rfl error

theorem isOneSided_ofExcept {ε : Type} (message : ε → String) (attempt : Except ε Json) :
    (ofExcept message attempt).IsOneSided := by
  cases attempt with
  | ok v => exact isOneSided_ofResult v
  | error e => exact fun _ => rfl

end Reply

namespace Domain

theorem isOneSided_apply {d e : Domain} {command : Command} {w v : World} {r : Reply}
    (answered : d.apply command w = (.reply r, e, v)) : r.IsOneSided := by
  cases command with
  | error | hide | set | merge | done => cases answered
  | hasErrors | data =>
    cases answered
    exact Reply.isOneSided_ofResult _
  | store | fetch | require | call =>
    cases answered
    exact Reply.isOneSided_ofExcept _ _

theorem isOneSided_hear {d e : Domain} {line : List UInt8} {w v : World} {r : Reply}
    (answered : d.hear line w = (.answer r, e, v)) : r.IsOneSided := by
  simp only [hear] at answered
  -- One branch answers, the one in which a command has been carried out.
  split at answered
  · cases answered
  split at answered
  · cases answered
  split at answered
  · cases answered
  split at answered
  · cases answered
  · rename_i applied
    cases answered
    exact isOneSided_apply applied
  · cases answered
  · cases answered

theorem isOneSided_converse (d : Domain) (w : World) (lines : List (List UInt8)) :
    ∀ r ∈ (d.converse w lines).replies, r.IsOneSided := by
  induction lines generalizing d w with
  | nil => exact fun r member => absurd member List.not_mem_nil
  | cons line rest ih =>
    simp only [converse]
    split
    · exact ih _ _
    · rename_i r _ _ heard
      simp only [Talk.after, List.singleton_append, List.forall_mem_cons]
      exact ⟨isOneSided_hear heard, ih _ _⟩
    · exact fun r member => absurd member List.not_mem_nil
    · exact fun r member => absurd member List.not_mem_nil

end Domain

/-! ### Lines -/

/-- No line feed stands in the text of a value. -/
theorem Json.newline_notMem_encode_text (v : Json) : 0x0A ∉ Utf8.encode v.text := by
  rw [Utf8.encode_eq, text, String.toList_ofList]
  intro member
  obtain ⟨c, inside, feed⟩ := List.mem_flatMap.mp member
  refine Utf8.newline_notMem_utf8EncodeChar ?_ feed
  rintro rfl
  exact absurd (v.isPrinted_chars _ inside) (by decide)

namespace Exchange

/-- Lines with values come apart where they were put together. -/
theorem splitOn_lineBytes (told : List Json) :
    (told.map fun v => lineBytes v.text).flatten.splitOn 0x0A =
      (told.map fun v => Utf8.encode v.text) ++ [[]] := by
  induction told with
  | nil => rfl
  | cons v rest ih =>
    rw [List.map_cons, List.flatten_cons, lineBytes, List.append_assoc, List.singleton_append,
      List.splitOn_append_cons_self_of_not_mem v.newline_notMem_encode_text, ih]
    rfl

section

variable {d : Domain} {w : World} {opening : List UInt8} {ending : Ending} {x : Exchange}
  {replies : List Reply} {outlook : List UInt8 → Talk}

/-- The answers given are the first ones of the conversation over what the script has written. -/
theorem Tells.replies_eq (now : Tells d w opening x replies outlook) :
    (d.converse w (x.written.splitOn 0x0A)).replies = replies ++ (outlook []).replies := by
  have talk := now.talk [] fun _ => rfl
  rw [List.append_nil] at talk
  rw [talk, Talk.after]

/-- What the script has read is the beginning of what the host has said. -/
theorem Tells.heard_prefix (now : Tells d w opening x replies outlook) :
    x.heard.reverse <+: x.said.reverse.flatten := by
  obtain ⟨rest, whole, -⟩ := now.heard
  exact ⟨x.outgoing ++ rest, by rw [whole, List.append_assoc]⟩

/-- However an exchange ends, it has told its beginning; only where the time is up can there be
answers left. -/
theorem Concludes.told (kept : Concludes d w opening (ending, x)) :
    ∃ replies outlook, Tells d w opening x replies outlook ∧
      ((∀ ms, ending ≠ .failed (.timeout ms)) → (outlook []).replies = []) := by
  cases kept with
  | timeout left =>
    obtain ⟨replies, told⟩ := left
    exact ⟨replies, _, told, fun timely => absurd rfl (timely _)⟩
  | broken left =>
    obtain ⟨replies, told⟩ := left
    exact ⟨replies, _, told, fun _ => rfl⟩
  | exited left closed =>
    obtain ⟨replies, told⟩ := left
    exact ⟨replies, _, told, fun _ => by simp [Exchange.outlook, closed]⟩

end

/-- **Every message for a script is one line.** Whatever the script does, the host has written the
opening and after it the answers of the session, one line each; all of them, unless the time was up.
A line is the text of its message and one line feed. No other control character stands in it, so the
lines come apart again, and each is read as what was to be told: the context and the data, or the
error and the result, of which the result is `null` where there is an error. -/
theorem run_said_lines (child : Child) (context : Context) (d : Domain) (w : World) (limit : Nat) :
    let ended := run child (start context d w limit)
    let session := (d.converse w (ended.2.written.splitOn 0x0A)).replies
    ∃ replies,
      let told := Session.opening context d.data :: replies.map Reply.toJson
      (replies <+: session ∧ ((∀ ms, ended.1 ≠ .failed (.timeout ms)) → replies = session)) ∧
      (ended.2.said.reverse = told.map (fun v => Utf8.encode v.text ++ [0x0A]) ∧
        (∀ v ∈ told, ∀ c ∈ v.text.toList, 0x20 ≤ c.toNat) ∧
        ended.2.said.reverse.flatten.splitOn 0x0A = (told.map fun v => Utf8.encode v.text) ++ [[]] ∧
        ended.2.heard.reverse <+: ended.2.said.reverse.flatten) ∧
      (context.query.toJson.IsPlain → context.body.toJson.IsPlain → d.data.toJson.IsPlain →
        Json.ofPlainText? (Session.opening context d.data).text =
          some (.object [("context", context.toJson), ("data", d.data.toJson)])) ∧
      ∀ r ∈ replies,
        (r.result.IsPlain → Json.ofPlainText? r.toJson.text =
          some (.object [("error", .ofOption r.error), ("result", r.result)])) ∧
        (r.error ≠ none → r.result = .null) := by
  intro ended session
  -- `outlook []` is what the host would still have to answer.
  obtain ⟨replies, outlook, told, spent⟩ :=
    (run_concludes child (start_follows context d w limit)).told
  have given : session = replies ++ (outlook []).replies := told.replies_eq
  have lines : ended.2.said.reverse =
      (Session.opening context d.data :: replies.map Reply.toJson).map fun v => lineBytes v.text := by
    rw [told.said, List.map_cons, List.map_map]
    rfl
  refine ⟨replies, ⟨⟨_, given.symm⟩, fun timely => ?_⟩, ⟨lines, ?_, ?_, told.heard_prefix⟩, ?_, ?_⟩
  · rw [given, spent timely, List.append_nil]
  · intro v _ c member
    rw [Json.text, String.toList_ofList] at member
    exact v.isPrinted_chars c member
  · rw [lines, splitOn_lineBytes]
  · intro query body view
    rw [Json.ofPlainText?_text (Session.isPlain_opening query body view), Session.opening_eq]
  · intro r member
    refine ⟨fun plain => ?_, ?_⟩
    · rw [Json.ofPlainText?_text (Reply.isPlain_toJson plain), Reply.toJson_eq]
    · exact Domain.isOneSided_converse d w _ r (given ▸ List.mem_append_left _ member)

/-- A script that is told of data and of an error with line feeds in them. -/
theorem run_said_lines_quoted :
    let commands := "\x7b\"op\":\"require\",\"name\":\"a\\nb\"\x7d\n\x7b\"op\":\"data\"\x7d\n"
    let child := Child.write (commands.toList.flatMap String.utf8EncodeChar) fun _ => .exit (some 0)
    let context : Context := ⟨"ask", "GET", "/action/ask?\n", ∅, ∅, false⟩
    let d := Domain.new "ask" ⟨[("\n", .string "\r\n\"")]⟩ ⟨"ask", none⟩
      ⟨some "lib", FileSystem.empty⟩ none
    let w := World.ofStores (.new (fun _ _ => "x") .memory {})
    let ended := run child (start context d w 1000)
    ended.1 = .finished ∧
      (ended.2.said.reverse.flatten.splitOn 0x0A).length = 4 ∧
      Json.ofPlainText? (Session.opening context d.data).text =
        some (.object [("context", context.toJson), ("data", d.data.toJson)]) ∧
      ∃ r : Reply, lineBytes r.toJson.text ∈ ended.2.said ∧ Json.ofPlainText? r.toJson.text =
        some (.object [("error", .string "Library not found: a\nb"), ("result", .null)]) := by
  intro commands child context d w ended
  obtain ⟨well, errors⟩ : ended.1 = .finished ∧
      (d.converse w (ended.2.written.splitOn 0x0A)).replies.map Reply.error =
        [some "Library not found: a\nb", none] := by
    decide +kernel
  obtain ⟨replies, ⟨-, all⟩, ⟨said, -, parts, -⟩, opening, answers⟩ :=
    run_said_lines child context d w 1000
  rw [← all fun ms late => by cases well.symm.trans late] at errors
  obtain ⟨r, rest, rfl⟩ : ∃ r rest, replies = r :: rest := by
    cases replies with
    | nil => cases errors
    | cons r rest => exact ⟨r, rest, rfl⟩
  rw [List.map_cons, List.cons.injEq] at errors
  have asked : rest.length = 1 := by simpa using congrArg List.length errors.2
  obtain ⟨read, onlyError⟩ := answers r List.mem_cons_self
  rw [onlyError (by simp [errors.1]), errors.1] at read
  refine ⟨well, ?_, opening (by decide) (by decide) (by decide +kernel), r, ?_, read (by decide)⟩
  · rw [parts]
    simp [asked]
  · rw [← List.mem_reverse, said]
    exact List.mem_cons_of_mem _ List.mem_cons_self

end Exchange

end ActionServer
