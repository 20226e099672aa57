import ActionServer.Proofs.Script.Arguments

/-!
# The grammar of commands

An object is a command if it names an operation and has the arguments which that operation requires,
each of its kind. `Command.Spells` says which command they make up, and the decoder finds just that.
-/

namespace ActionServer

theorem Operation.ofName?_eq_some_iff {name : String} {op : Operation} :
    ofName? name = some op ↔ name = op.name := by
  constructor
  · intro found
    rw [ofName?] at found
    have test := List.find?_some found
    exact (beq_iff_eq.mp test).symm
  · rintro rfl
    cases op <;> decide

namespace Command

/-- The command that an operation and what is given for its arguments make up. -/
inductive Spells (given : String → Option Json) : Operation → Command → Prop where
  | error {key : String} : given "key" = some (.string key) →
      Spells given .error (.error key (present (given "value")))
  | hide {property : String} : given "property" = some (.string property) →
      Spells given .hide (.hide property)
  | set {key : String} {value : Json} : given "key" = some (.string key) →
      given "value" = some value → Spells given .set (.set key value)
  | merge {fields : List (String × Json)} : given "data" = some (.object fields) →
      Spells given .merge (.merge ⟨fields⟩)
  | hasErrors : Spells given .hasErrors .hasErrors
  | data : Spells given .data .data
  | store {fields : List (String × Json)} : given "element" = some (.object fields) →
      Spells given .store (.store ⟨fields⟩)
  | fetch : Spells given .fetch (.fetch (present (given "query")))
  | require {name : String} : given "name" = some (.string name) →
      Spells given .require (.require name)
  | call {method path : String} : given "method" = some (.string method) →
      given "path" = some (.string path) →
      Spells given .call (.call method path (present (given "body")))
  | done : Spells given .done (.done (present (given "error")))

section

variable {given : String → Option Json} {op : Operation}

theorem Spells.admits {c : Command} (spells : Spells given op c) :
    ∀ a ∈ op.signature, a.2.Admits (given a.1) := by
  cases spells <;> simp_all [Operation.signature, ArgumentKind.Admits]

/-- Arguments of the right kinds make up a command. -/
theorem exists_spells (admitted : ∀ a ∈ op.signature, a.2.Admits (given a.1)) :
    ∃ c, Spells given op c := by
  -- A required argument has what its kind asks for, by its place in the signature.
  cases op with
  | error =>
    obtain ⟨key, named⟩ := admitted ("key", .text) List.mem_cons_self
    exact ⟨_, .error named⟩
  | hide =>
    obtain ⟨property, named⟩ := admitted ("property", .text) List.mem_cons_self
    exact ⟨_, .hide named⟩
  | set =>
    obtain ⟨key, named⟩ := admitted ("key", .text) List.mem_cons_self
    obtain ⟨value, written⟩ := admitted ("value", .value) (List.mem_cons_of_mem _ List.mem_cons_self)
    exact ⟨_, .set named written⟩
  | merge =>
    obtain ⟨fields, written⟩ := admitted ("data", .document) List.mem_cons_self
    exact ⟨_, .merge written⟩
  | hasErrors => exact ⟨_, .hasErrors⟩
  | data => exact ⟨_, .data⟩
  | store =>
    obtain ⟨fields, written⟩ := admitted ("element", .document) List.mem_cons_self
    exact ⟨_, .store written⟩
  | fetch => exact ⟨_, .fetch⟩
  | require =>
    obtain ⟨name, named⟩ := admitted ("name", .text) List.mem_cons_self
    exact ⟨_, .require named⟩
  | call =>
    obtain ⟨method, named⟩ := admitted ("method", .text) List.mem_cons_self
    obtain ⟨path, led⟩ := admitted ("path", .text) (List.mem_cons_of_mem _ List.mem_cons_self)
    exact ⟨_, .call named led⟩
  | done => exact ⟨_, .done⟩

end

variable {op : Operation} {d : Draft} {fields : List (String × Json)} {name : String}

/-! ### What the arguments make up -/

section

variable {α β : Type} {v : Option Json} {b : β}

theorem need_bind_eq_ok_iff {o : Option α} {next : α → Except ShapeFault β} :
    (need name o >>= next) = .ok b ↔ ∃ a, o = some a ∧ next a = .ok b := by
  cases o with
  | none => exact ⟨nofun, nofun⟩
  | some a => simp [need, bind, Except.bind]

theorem need_text_eq_ok_iff (held : ArgumentKind.text.Holds name v d)
    {next : String → Except ShapeFault β} :
    (need name (d.text name) >>= next) = .ok b ↔ ∃ s, v = some (.string s) ∧ next s = .ok b := by
  rw [need_bind_eq_ok_iff]
  exact exists_congr fun s => and_congr_left' (held s)

theorem need_document_eq_ok_iff (held : ArgumentKind.document.Holds name v d)
    {next : Document → Except ShapeFault β} :
    (need name (d.document name) >>= next) = .ok b ↔
      ∃ fields, v = some (.object fields) ∧ next ⟨fields⟩ = .ok b := by
  rw [need_bind_eq_ok_iff]
  constructor
  · rintro ⟨⟨fields⟩, found, made⟩
    exact ⟨fields, (held fields).mp found, made⟩
  · rintro ⟨fields, written, made⟩
    exact ⟨⟨fields⟩, (held fields).mpr written, made⟩

end

/-- A draft that has the arguments as they were given makes up the command that they spell. -/
theorem finish_eq_ok_iff {gave : String → Option Json} {c : Command}
    (held : ∀ a ∈ op.signature, a.2.Holds a.1 (gave a.1) d) :
    finish op d = .ok c ↔ Spells gave op c := by
  constructor
  · intro made
    cases op with
    | error =>
      obtain ⟨key, named, made⟩ := (need_text_eq_ok_iff (held _ (.head _))).mp made
      have value := held _ (.tail _ (.head _))
      rw [value] at made
      cases made
      exact .error named
    | hide =>
      obtain ⟨property, named, made⟩ := (need_text_eq_ok_iff (held _ (.head _))).mp made
      cases made
      exact .hide named
    | set =>
      obtain ⟨key, named, made⟩ := (need_text_eq_ok_iff (held _ (.head _))).mp made
      obtain ⟨value, written, made⟩ := need_bind_eq_ok_iff.mp made
      rw [held _ (.tail _ (.head _))] at written
      cases made
      exact .set named written
    | merge =>
      obtain ⟨fields, written, made⟩ := (need_document_eq_ok_iff (held _ (.head _))).mp made
      cases made
      exact .merge written
    | hasErrors =>
      cases made
      exact .hasErrors
    | data =>
      cases made
      exact .data
    | store =>
      obtain ⟨fields, written, made⟩ := (need_document_eq_ok_iff (held _ (.head _))).mp made
      cases made
      exact .store written
    | fetch =>
      rw [finish, held _ (.head _)] at made
      cases made
      exact .fetch
    | require =>
      obtain ⟨name, named, made⟩ := (need_text_eq_ok_iff (held _ (.head _))).mp made
      cases made
      exact .require named
    | call =>
      obtain ⟨method, named, made⟩ := (need_text_eq_ok_iff (held _ (.head _))).mp made
      obtain ⟨path, led, made⟩ := (need_text_eq_ok_iff (held _ (.tail _ (.head _)))).mp made
      rw [held _ (.tail _ (.tail _ (.head _)))] at made
      cases made
      exact .call named led
    | done =>
      rw [finish, held _ (.head _)] at made
      cases made
      exact .done
  · intro spells
    cases spells with
    | error named =>
      rw [finish, held _ (.tail _ (.head _))]
      exact (need_text_eq_ok_iff (held _ (.head _))).mpr ⟨_, named, rfl⟩
    | hide named => exact (need_text_eq_ok_iff (held _ (.head _))).mpr ⟨_, named, rfl⟩
    | set named written =>
      have value := (held _ (.tail _ (.head _))).trans written
      exact (need_text_eq_ok_iff (held _ (.head _))).mpr
        ⟨_, named, need_bind_eq_ok_iff.mpr ⟨_, value, rfl⟩⟩
    | merge written => exact (need_document_eq_ok_iff (held _ (.head _))).mpr ⟨_, written, rfl⟩
    | hasErrors | data => rfl
    | store written => exact (need_document_eq_ok_iff (held _ (.head _))).mpr ⟨_, written, rfl⟩
    | fetch => rw [finish, held _ (.head _)]
    | require named => exact (need_text_eq_ok_iff (held _ (.head _))).mpr ⟨_, named, rfl⟩
    | call named led =>
      rw [finish, held _ (.tail _ (.tail _ (.head _)))]
      exact (need_text_eq_ok_iff (held _ (.head _))).mpr
        ⟨_, named, (need_text_eq_ok_iff (held _ (.tail _ (.head _)))).mpr ⟨_, led, rfl⟩⟩
    | done => rw [finish, held _ (.head _)]

/-! ### The operation -/

theorem operation_eq_ok_iff {v : Json} :
    operation (.ofJson v) = .ok op ↔ v = .string op.name := by
  cases v with
  | null | bool b | number n | array items | object fields =>
    simp [Raw.ofJson, operation, Raw.refuse]
  | string s =>
    rw [Raw.ofJson, operation, Json.string.injEq, ← Operation.ofName?_eq_some_iff]
    cases Operation.ofName? s <;> simp

theorem operationOf_of_found (absent : "op" ∉ fields.map (·.1)) :
    operationOf (some op) (Raw.ofFields fields) = .ok op := by
  induction fields with
  | nil => rfl
  | cons f rest ih =>
    obtain ⟨key, x⟩ := f
    rw [List.map_cons, List.mem_cons, not_or] at absent
    rw [Raw.ofFields, operationOf, ih absent.2]
    rintro _ same
    cases same
    exact absent.1 rfl

/-- The operation stands under `op`, wherever among the fields that is. -/
theorem operationOf_eq_ok_iff (distinct : (fields.map (·.1)).Nodup) :
    operationOf none (Raw.ofFields fields) = .ok op ↔
      fields.lookup "op" = some (.string op.name) := by
  induction fields with
  | nil => exact ⟨nofun, nofun⟩
  | cons f rest ih =>
    obtain ⟨key, x⟩ := f
    rw [List.map_cons, List.nodup_cons] at distinct
    by_cases tag : "op" = key
    · subst tag
      rw [List.lookup_cons_self, Option.some.injEq, ← operation_eq_ok_iff]
      constructor
      · intro found
        obtain ⟨o, named, later⟩ := eq_ok_of_bind found
        rw [operationOf_of_found distinct.1] at later
        rw [named, later]
      · intro named
        simp only [Raw.ofFields, operationOf, named]
        exact operationOf_of_found distinct.1
    · rw [lookup_cons_of_ne tag, ← ih distinct.2, Raw.ofFields, operationOf]
      rintro _ same
      cases same
      exact tag rfl

/-! ### Whole objects -/

/-- The tag is no argument, so it makes no difference that it is not among what is read. -/
theorem walk_untagged (op : Operation) :
    Raw.walk (argument op) [] .empty ((Raw.ofFields fields).filter (·.1 != some "op")) =
      Raw.walk (argument op) [] .empty (Raw.ofFields fields) := by
  refine Raw.walk_filter (fun f dropped => ⟨"op", by simpa using dropped, ?_⟩) _
  cases op <;> rfl

section

variable {c : Command} (distinct : (fields.map (·.1)).Nodup)
  (shallow : (Json.object fields).depth ≤ Json.nestingLimit)
  (unmarked : ∀ op : Operation, given fields "op" = some (.string op.name) →
    ∀ a ∈ op.signature, (fields.lookup a.1).all a.2.isUnmarked = true)

include distinct shallow unmarked

theorem ofRaw_eq_ok_iff :
    ofRaw (.ofJson (.object fields)) = .ok c ↔
      ∃ op : Operation, given fields "op" = some (.string op.name) ∧ Spells (given fields) op c := by
  have within : Json.depthOfFields fields ≤ Json.nestingLimit := by
    rw [Json.depth] at shallow
    omega
  -- With the operation known, the condition is one on the fields that are its arguments.
  have clear (op : Operation) (tagged : given fields "op" = some (.string op.name)) :
      ∀ f ∈ fields, ∀ kind, (f.1, kind) ∈ op.signature → kind.isUnmarked f.2 = true := by
    intro f member kind asked
    have found := (lookup_eq_some_iff_mem distinct).mpr member
    simpa [found] using unmarked op tagged (f.1, kind) asked
  rw [Raw.ofJson, ofRaw]
  constructor
  · intro made
    obtain ⟨op, named, made⟩ := eq_ok_of_bind made
    obtain ⟨d, read, made⟩ := eq_ok_of_bind made
    rw [walk_untagged] at read
    have tagged := given_eq_string_iff.mpr ((operationOf_eq_ok_iff distinct).mp named)
    refine ⟨op, tagged, (finish_eq_ok_iff fun a asked => ?_).mp made⟩
    exact holds_of_walk distinct within (clear op tagged) asked (ArgumentKind.holds_empty _ _) read
  · rintro ⟨op, tagged, spells⟩
    have named := (operationOf_eq_ok_iff distinct).mpr (given_eq_string_iff.mp tagged)
    obtain ⟨d, read⟩ : ∃ d, Raw.walk (argument op) [] .empty (Raw.ofFields fields) = .ok d := by
      refine exists_walk distinct within (clear op tagged) (fun _ _ => List.not_mem_nil)
        fun f member kind asked => ?_
      have found := (lookup_eq_some_iff_mem distinct).mpr member
      simpa [given, found] using spells.admits (f.1, kind) asked
    have made : finish op d = .ok c := (finish_eq_ok_iff fun a asked =>
      holds_of_walk distinct within (clear op tagged) asked (ArgumentKind.holds_empty _ _) read).mpr
        spells
    simp only [named, walk_untagged, read, made, bind, Except.bind]

/-- **What is a command, and which.** A line with an object is a command exactly if the object names
an operation and gives each argument in its signature as the kind asks; it is the command that these
spell. Nothing else is asked of the object, so neither the order of its fields matters nor what it
has besides. -/
theorem ofText_object {line : String}
    (written : Raw.ofText? line = some (.ofJson (.object fields))) :
    (∀ c, ofText line = .ok c ↔ ∃ op : Operation,
      given fields "op" = some (.string op.name) ∧ Spells (given fields) op c) ∧
    ((∃ c, ofText line = .ok c) ↔ ∃ op : Operation,
      given fields "op" = some (.string op.name) ∧
        ∀ a ∈ op.signature, a.2.Admits (given fields a.1)) := by
  have sound : (Raw.ofJson (.object fields)).isSound Json.nestingLimit = true := by
    rw [Raw.isSound_ofJson]
    exact decide_eq_true shallow
  have decodes (c : Command) : ofText line = .ok c ↔ ∃ op : Operation,
      given fields "op" = some (.string op.name) ∧ Spells (given fields) op c := by
    rw [← ofRaw_eq_ok_iff distinct shallow unmarked]
    simp only [ofText, written, sound]
    cases ofRaw (.ofJson (.object fields)) <;> simp
  refine ⟨decodes, ?_⟩
  simp only [decodes]
  constructor
  · rintro ⟨c, op, tagged, spells⟩
    exact ⟨op, tagged, spells.admits⟩
  · rintro ⟨op, tagged, admitted⟩
    obtain ⟨c, spells⟩ := exists_spells admitted
    exact ⟨c, op, tagged, spells⟩

end

theorem ofText_object_call :
    ofText (Json.object [("path", .string "/a"), ("more", .array [.null]), ("op", .string "call"),
      ("body", .null), ("method", .string "GET")]).text = .ok (.call "GET" "/a" none) := by
  have whole : Json.all Json.isWhole (.object [("path", .string "/a"), ("more", .array [.null]),
      ("op", .string "call"), ("body", .null), ("method", .string "GET")]) = true := by decide
  have decodes := ofText_object (by decide) (by decide) (fun op _ => by cases op <;> decide)
    (Raw.ofText?_text whole)
  exact (decodes.1 _).mpr ⟨.call, rfl, .call rfl rfl⟩

/-- A command with an argument that is marked as a wrapping. -/
def markedFields : List (String × Json) :=
  [("op", .string "set"), ("key", .string "k"), ("value", .object [(Raw.wrapKey, .string "2")])]

/-- A command with a number beyond all doubles, where it has no argument. -/
def hugeLine : String :=
  "\x7b\"op\":\"data\",\"more\":1e999\x7d"

/-- The fields alone do not decide: a value that is marked is taken for what it wraps, and a part
that has no value spoils an object also where it is no argument, although the grammar allows it. -/
theorem ofText_not_as_given :
    (Raw.ofText? (Json.object markedFields).text = some (.ofJson (.object markedFields)) ∧
      (markedFields.map (·.1)).Nodup ∧ (Json.object markedFields).depth ≤ Json.nestingLimit ∧
      given markedFields "op" = some (.string Operation.set.name) ∧
      Spells (given markedFields) .set (.set "k" (.object [(Raw.wrapKey, .string "2")])) ∧
      ofText (Json.object markedFields).text ≠
        .ok (.set "k" (.object [(Raw.wrapKey, .string "2")]))) ∧
    (Raw.ofText? hugeLine).isSome = true ∧ ∀ c, ofText hugeLine ≠ .ok c := by
  refine ⟨⟨Raw.ofText?_text (by decide), by decide, by decide, rfl, .set rfl rfl, fun taken => ?_⟩,
    by decide +kernel, fun c taken => ?_⟩
  · have unwrapped : (ofText (Json.object markedFields).text).toOption.any
        (fun c => match c with | .set _ v => v == .ofNat 2 | _ => false) = true := by
      decide +kernel
    rw [taken] at unwrapped
    revert unwrapped
    decide
  · have refused : (ofText hugeLine).toOption.isNone = true := by decide +kernel
    rw [taken] at refused
    cases refused

end Command

end ActionServer
