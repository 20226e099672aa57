import ActionServer.Proofs.Script.Exchange
import ActionServer.Proofs.Store.Readback

/-!
# What a command leaves alone

Commands are of two kinds. Those that write the view or the errors never look outside their domain;
those that ask are answered and leave the domain as it is. Of the latter only `store` writes to a
collection, and only if it is answered without an error: an access that meets an outage stops before
the records, and what a collection refuses is not put back. Whether an answer carries an error plays
no part in how the session goes on.
-/

namespace ActionServer

namespace Stores

variable (s : Stores) (name : String)

/-- To reach a collection changes none. -/
theorem collections_access (call : StoreCall) :
    (s.access name call).2.collections = s.collections := by
  simp only [access]
  split
  · rfl
  · split <;> rfl

theorem collections_find (filter : Option Document) :
    (s.find name filter).2.collections = s.collections := by
  rw [← collections_access s name (.find name filter)]
  simp only [find]
  split <;> rename_i reached <;> rw [reached]

theorem collections_first (filter : Document) :
    (s.first name filter).2.collections = s.collections := by
  rw [← collections_access s name (.first name filter)]
  simp only [first]
  split <;> rename_i reached <;> rw [reached]

variable {s name}

/-- An identity may have been made for what is refused; no record has. -/
theorem collections_append_of_error {c : Collection} {element : Document} {e : StoreError}
    (refused : (s.append c element).1 = .error e) :
    (s.append c element).2.collections = s.collections := by
  simp only [append] at refused ⊢
  split at refused
  · split <;> rfl
  · cases refused

theorem collections_insert_of_error {element : Document} {e : StoreError}
    (refused : (s.insert name element).1 = .error e) :
    (s.insert name element).2.collections = s.collections := by
  rw [← collections_access s name (.insert name)]
  simp only [insert] at refused ⊢
  split at refused <;> rename_i reached
  · rw [reached]
  · rw [reached]
    exact collections_append_of_error refused

theorem collections_update_of_error {filter element : Document} {e : StoreError}
    (refused : (s.update name filter element).1 = .error e) :
    (s.update name filter element).2.collections = s.collections := by
  rw [← collections_access s name (.update name filter)]
  simp only [update] at refused ⊢
  split at refused <;> rename_i reached
  · rw [reached]
  · rw [reached]
    split at refused
    · rfl
    · cases refused

end Stores

namespace Persistence

variable (p : Persistence) {s : Stores}

theorem collections_fetch (query : FetchQuery) (s : Stores) :
    (p.fetch query s).2.collections = s.collections := by
  obtain ⟨action, _ | name⟩ := p
  · rfl
  · cases query with
    | all => exact s.collections_find name none
    | filter fields => exact s.collections_find name (some fields)
    | id value => exact s.collections_first name (Document.identityFilter value)

/-- What an action stores is refused in one of three places, before any record is written. -/
theorem collections_persist_of_error {element : Document} {e : StoreError}
    (refused : (p.persist element s).1 = .error e) :
    (p.persist element s).2.collections = s.collections := by
  obtain ⟨action, _ | name⟩ := p
  · rfl
  · cases known : element.identity? with
    | none =>
      rw [persist_of_none known] at refused ⊢
      exact Stores.collections_insert_of_error refused
    | some id =>
      rw [persist_of_some known] at refused ⊢
      exact Stores.collections_update_of_error refused

/-- What is answered to an action is a record of its collection. -/
theorem mem_recordsOf_of_persist {element record : Document}
    (stored : (p.persist element s).1 = .ok record) :
    ∃ name, p.collection = some name ∧ record ∈ (p.persist element s).2.recordsOf name := by
  obtain ⟨action, _ | name⟩ := p
  · cases stored
  · have done : Persistence.persist ⟨action, some name⟩ element s =
        (.ok record, (Persistence.persist ⟨action, some name⟩ element s).2) := Prod.ext stored rfl
    obtain ⟨id, before, after, placed, -⟩ := Stores.placed_of_persist done
    refine ⟨name, rfl, ?_⟩
    rw [placed.records]
    simp

end Persistence

namespace Domain

/-- Commands that ask leave the domain as it is. -/
theorem apply_of_asks {command : Command} (asks : command.asks = true) (d : Domain) (w : World) :
    (d.apply command w).2.1 = d := by
  cases command with
  | error | hide | set | merge | done => cases asks
  | hasErrors | data | store | fetch | require | call => rfl

/-- The others leave the world as it is. -/
theorem apply_of_not_asks {command : Command} (writes : command.asks = false) (d : Domain)
    (w : World) : (d.apply command w).2.2 = w := by
  cases command with
  | error | hide | set | merge | done => rfl
  | hasErrors | data | store | fetch | require | call => cases writes

/-- The answer to a store has an error or a record, as the store itself has. -/
theorem apply_store_answer {d : Domain} {element : Document} {w : World} {answer : Reply}
    (told : (d.apply (.store element) w).1 = .reply answer) :
    (∃ e, (d.persistence.persist element w.stores).1 = .error e ∧ answer = .ofError e.message) ∨
      ∃ record, (d.persistence.persist element w.stores).1 = .ok record ∧
        answer = .ofResult record.toJson := by
  simp only [apply, store, Step.reply.injEq] at told
  cases result : (d.persistence.persist element w.stores).1 with
  | error e =>
    rw [result] at told
    exact .inl ⟨e, rfl, told.symm⟩
  | ok record =>
    rw [result] at told
    exact .inr ⟨record, rfl, told.symm⟩

/-- As many answers are given as there are questions among the commands of the output, and the
conversation breaks off only where the output itself ends it. -/
theorem converse_counts (d : Domain) (w : World) (output : String) :
    let (commands, close) := Session.script (Session.candidates output)
    let talk := d.converse w ((Utf8.encode output).splitOn 0x0A)
    talk.replies.length = commands.countP Command.asks ∧ talk.failure = close.failure? := by
  simp only [converse_encode, Session.talk, and_true]
  generalize (Session.script (Session.candidates output)).1 = commands
  have counted := congrArg (List.countP id) (d.isSome_reply?_applyAll w commands)
  rw [List.length_filterMap_eq_countP]
  simpa only [List.countP_map, Function.id_comp, Function.comp_def, id] using counted

end Domain

/-- A host that has an answer to give goes on, whatever the answer is. -/
theorem Exchange.take_of_answer {x : Exchange} {line : List UInt8} {answer : Reply} {d : Domain}
    {w : World} (heard : x.domain.hear line x.world = (.answer answer, d, w)) :
    ∃ y, x.take line = .ok y ∧ y.closed = x.closed ∧ y.domain = d ∧ y.world = w ∧
      y.incoming = x.incoming ∧ y.said = Exchange.answer answer :: x.said := by
  simp only [take, heard, send]
  refine ⟨_, rfl, ?_⟩
  split <;> exact ⟨rfl, rfl, rfl, rfl, rfl⟩

namespace Domain

/-- **An error in an answer leaves no trace.** Whatever the domain is bound to: commands that ask
leave it as it is, and the others leave the world as it is. `fetch` and `require` change no
collection. A store that is answered with an error has changed none either, and one that is answered
without has left the record that it answers in the collection of the action. No answer ends the
session: there are as many answers as questions among the commands of an output, which the output
alone ends, and a host that has an answer to give takes the next line after it. -/
theorem apply_frame (d : Domain) (w : World) :
    (∀ command, command.asks = true → (d.apply command w).2.1 = d) ∧
    (∀ command, command.asks = false → (d.apply command w).2.2 = w) ∧
    (∀ query, (d.apply (.fetch query) w).2.2.stores.collections = w.stores.collections) ∧
    (∀ name, (d.apply (.require name) w).2.2 = w) ∧
    (∀ element answer, (d.apply (.store element) w).1 = .reply answer →
      let after := (d.apply (.store element) w).2.2.stores
      (answer.error.isSome → after.collections = w.stores.collections) ∧
      (answer.error = none → ∃ name record, d.persistence.collection = some name ∧
        record ∈ after.recordsOf name ∧ answer.result = record.toJson)) ∧
    (∀ output,
      let (commands, close) := Session.script (Session.candidates output)
      let talk := d.converse w ((Utf8.encode output).splitOn 0x0A)
      talk.replies.length = commands.countP Command.asks ∧ talk.failure = close.failure?) ∧
    (∀ (x : Exchange) line answer next v, x.domain.hear line x.world = (.answer answer, next, v) →
      ∃ y, x.take line = .ok y ∧ y.closed = x.closed ∧ y.domain = next ∧ y.world = v ∧
        y.incoming = x.incoming ∧ y.said = Exchange.answer answer :: x.said) := by
  refine ⟨fun _ asks => apply_of_asks asks d w, fun _ writes => apply_of_not_asks writes d w,
    fun query => d.persistence.collections_fetch _ w.stores, fun _ => rfl,
    fun element answer told => ?_, d.converse_counts w, fun _ _ _ _ _ => Exchange.take_of_answer⟩
  -- Only the store is left, which is answered in one of two ways.
  rcases apply_store_answer told with ⟨e, refused, rfl⟩ | ⟨record, stored, rfl⟩
  · exact ⟨fun _ => d.persistence.collections_persist_of_error refused, nofun⟩
  · refine ⟨nofun, fun _ => ?_⟩
    obtain ⟨name, bound, member⟩ := d.persistence.mem_recordsOf_of_persist stored
    exact ⟨name, record, bound, member, rfl⟩

end Domain

end ActionServer
