import ActionServer.Proofs.Json.Record
import ActionServer.Proofs.Json.RoundTrip
import ActionServer.Script.Command

/-!
# Arguments

`Operation.signature` lists the arguments of an operation with their kinds. The decoder goes through
the fields of a command in the order of the text and keeps what it reads in a draft. Each field
changes what the draft has under its own name only, so in the end the draft has each argument as it
was given, wherever that stood.
-/

namespace ActionServer

/-! ### Looking up -/

section

variable {β : Type} {key other : String} {b : β} {entries : List (String × β)}

theorem lookup_cons_of_ne (apart : key ≠ other) :
    ((other, b) :: entries).lookup key = entries.lookup key := by
  rw [List.lookup_cons, beq_eq_false_iff_ne.mpr apart]

/-- Among entries with distinct keys an entry is found by its key. -/
theorem lookup_eq_some_iff_mem (distinct : (entries.map (·.1)).Nodup) :
    entries.lookup key = some b ↔ (key, b) ∈ entries := by
  induction entries with
  | nil => simp
  | cons entry rest ih =>
    obtain ⟨k, x⟩ := entry
    rw [List.map_cons, List.nodup_cons] at distinct
    by_cases first : key = k
    · subst first
      have later : (key, b) ∉ rest := fun member =>
        distinct.1 (List.mem_map.mpr ⟨_, member, rfl⟩)
      simp [later, eq_comm]
    · rw [lookup_cons_of_ne first, ih distinct.2]
      simp [first]

end

/-! ### Arguments and their kinds -/

/-- What an argument may be: a string, an object, any value, or any value or nothing at all. -/
inductive ArgumentKind where
  | text
  | document
  | value
  | optional
  deriving DecidableEq, Repr

namespace ArgumentKind

/-- What the kind asks of an argument or of its absence. -/
def Admits : ArgumentKind → Option Json → Prop
  | text, given => ∃ s, given = some (.string s)
  | document, given => ∃ fields, given = some (.object fields)
  | value, given => ∃ v, given = some v
  | optional, _ => True

/-- Whether no object that is taken over as JSON is marked as a wrapping. The fields of a document
are taken over one by one, so its own first key may be any. -/
def isUnmarked : ArgumentKind → Json → Bool
  | text, _ => true
  | document, .object fields => Json.allFields Json.isUnmarked fields
  | document, _ => true
  | value, v | optional, v => v.all Json.isUnmarked

end ArgumentKind

/-- The arguments of an operation with their kinds. -/
def Operation.signature : Operation → List (String × ArgumentKind)
  | error => [("key", .text), ("value", .optional)]
  | hide => [("property", .text)]
  | set => [("key", .text), ("value", .value)]
  | merge => [("data", .document)]
  | hasErrors | data => []
  | store => [("element", .document)]
  | fetch => [("query", .optional)]
  | require => [("name", .text)]
  | call => [("method", .text), ("path", .text), ("body", .optional)]
  | done => [("error", .optional)]

/-- An optional argument: `null` is as good as none. -/
def Command.present : Option Json → Option Json
  | some .null => none
  | given => given

/-! ### Reading one argument -/

namespace ArgumentKind

open Command (Draft present)

/-- How an argument of the kind is read into a draft. -/
def read (name : String) : ArgumentKind → Raw → Except ShapeFault (Draft → Draft)
  | text, r => (Raw.text r).map (Draft.setText name)
  | document, r => (Raw.document r).map (Draft.setDocument name)
  | value, r => (Raw.any r).map fun v => Draft.setValue name (some v)
  | optional, r => (Raw.optional Raw.any r).map (Draft.setValue name)

/-- A draft has of an argument just what was given for it. -/
def Holds (name : String) (given : Option Json) (d : Draft) : ArgumentKind → Prop
  | text => ∀ s, d.text name = some s ↔ given = some (.string s)
  | document => ∀ fields, d.document name = some ⟨fields⟩ ↔ given = some (.object fields)
  | value => d.value name = given
  | optional => d.value name = present given

end ArgumentKind

theorem Json.normal_eq_string_iff {v : Json} {s : String} : v.normal = .string s ↔ v = .string s := by
  cases v <;> simp [normal, ofFields, Document.toJson]

theorem Raw.text_ofJson_eq_ok_iff {v : Json} {s : String} :
    text (ofJson v) = .ok s ↔ v = .string s := by
  cases v <;> simp [ofJson, text, refuse]

theorem Raw.any_ofJson {v : Json} (shallow : v.depth ≤ Json.nestingLimit)
    (unmarked : v.all Json.isUnmarked = true) : any (ofJson v) = .ok v.normal := by
  have formed : (ofJson v).value? = some v.normal := by
    rw [value?, valueWith_ofJson v unmarked, if_pos shallow]
  rw [any, formed]

theorem Raw.optional_ofJson {v : Json} (shallow : v.depth ≤ Json.nestingLimit)
    (unmarked : v.all Json.isUnmarked = true) :
    optional any (ofJson v) = .ok (Command.present (some v.normal)) := by
  have formed := any_ofJson shallow unmarked
  cases v with
  | null => rfl
  | bool b | number n | string s | array items | object fields =>
    rw [ofJson] at formed ⊢
    simp only [optional, formed]
    rfl

theorem Raw.document_ofJson_eq_ok_iff {v : Json} (shallow : v.depth ≤ Json.nestingLimit)
    (unmarked : ArgumentKind.document.isUnmarked v = true) {fields : List (String × Json)} :
    document (ofJson v) = .ok ⟨fields⟩ ↔ v.normal = .object fields := by
  cases v with
  | null | bool b | number n | string s | array items =>
    simp [ofJson, document, refuse, Json.normal]
  | object written =>
    rw [Json.depth] at shallow
    rw [ofJson, document, fieldsWith_ofFields written unmarked, if_pos (by omega), Json.normal,
      Json.ofFields, Document.toJson, Except.ok.injEq, Json.object.injEq, Document.mk.injEq]

namespace ArgumentKind

open Command (Draft present)

variable {kind : ArgumentKind} {name : String} {v : Json}

/-- A value is read exactly if it is of the kind. -/
theorem exists_read_iff (shallow : v.depth ≤ Json.nestingLimit)
    (unmarked : kind.isUnmarked v = true) :
    (∃ change, kind.read name (.ofJson v) = .ok change) ↔ kind.Admits (some v.normal) := by
  cases kind with
  | text =>
    rw [read, exists_map_eq_ok_iff]
    exact exists_congr fun s => by
      rw [Raw.text_ofJson_eq_ok_iff, Option.some.injEq, Json.normal_eq_string_iff]
  | document =>
    rw [read, exists_map_eq_ok_iff]
    constructor
    · rintro ⟨⟨fields⟩, inner⟩
      exact ⟨fields, congrArg some ((Raw.document_ofJson_eq_ok_iff shallow unmarked).mp inner)⟩
    · rintro ⟨fields, same⟩
      exact ⟨⟨fields⟩, (Raw.document_ofJson_eq_ok_iff shallow unmarked).mpr (Option.some.inj same)⟩
  | value =>
    rw [read, exists_map_eq_ok_iff, Raw.any_ofJson shallow unmarked]
    exact ⟨fun _ => ⟨_, rfl⟩, fun _ => ⟨_, rfl⟩⟩
  | optional =>
    rw [read, exists_map_eq_ok_iff, Raw.optional_ofJson shallow unmarked]
    exact ⟨fun _ => trivial, fun _ => ⟨_, rfl⟩⟩

theorem holds_of_read (shallow : v.depth ≤ Json.nestingLimit) (unmarked : kind.isUnmarked v = true)
    {change : Draft → Draft} (done : kind.read name (.ofJson v) = .ok change) (d : Draft) :
    kind.Holds name (some v.normal) (change d) := by
  cases kind with
  | text =>
    obtain ⟨s, inner, rfl⟩ := map_eq_ok_iff.mp done
    obtain rfl := Raw.text_ofJson_eq_ok_iff.mp inner
    simp [Holds, Draft.setText, Json.normal]
  | document =>
    obtain ⟨⟨fields⟩, inner, rfl⟩ := map_eq_ok_iff.mp done
    have same := (Raw.document_ofJson_eq_ok_iff shallow unmarked).mp inner
    simp [Holds, Draft.setDocument, same]
  | value =>
    obtain ⟨w, inner, rfl⟩ := map_eq_ok_iff.mp done
    rw [Raw.any_ofJson shallow unmarked, Except.ok.injEq] at inner
    simp [Holds, Draft.setValue, inner]
  | optional =>
    obtain ⟨w, inner, rfl⟩ := map_eq_ok_iff.mp done
    rw [Raw.optional_ofJson shallow unmarked, Except.ok.injEq] at inner
    simp [Holds, Draft.setValue, inner]

/-- Other arguments are as they were. -/
theorem holds_elsewhere {r : Raw} {change : Draft → Draft} (done : kind.read name r = .ok change)
    {other : String} (apart : other ≠ name) {given : Option Json} {d : Draft} (k : ArgumentKind) :
    k.Holds other given (change d) ↔ k.Holds other given d := by
  cases kind with
  | text =>
    obtain ⟨s, -, rfl⟩ := map_eq_ok_iff.mp done
    cases k <;> simp [Holds, Draft.setText, apart]
  | document =>
    obtain ⟨doc, -, rfl⟩ := map_eq_ok_iff.mp done
    cases k <;> simp [Holds, Draft.setDocument, apart]
  | value =>
    obtain ⟨w, -, rfl⟩ := map_eq_ok_iff.mp done
    cases k <;> simp [Holds, Draft.setValue, apart]
  | optional =>
    obtain ⟨w, -, rfl⟩ := map_eq_ok_iff.mp done
    cases k <;> simp [Holds, Draft.setValue, apart]

theorem holds_empty (name : String) (k : ArgumentKind) : k.Holds name none Draft.empty := by
  cases k <;> simp [Holds, Draft.empty, present]

end ArgumentKind

namespace Command

variable {op : Operation} {seen : List String} {d e : Draft} {fields : List (String × Json)}
  {name : String}

/-- The signature says which arguments are read, and how. -/
theorem argument_eq (op : Operation) (name : String) :
    argument op name = (op.signature.lookup name).map (ArgumentKind.read name) := by
  unfold argument
  split
  case h_14 =>
    -- The name is none of those in the signature.
    cases op <;> simp_all [Operation.signature, lookup_cons_of_ne]
  all_goals rfl

theorem nodup_signature (op : Operation) : (op.signature.map (·.1)).Nodup := by
  cases op <;> decide

theorem argument_eq_some_iff {read : Raw → Except ShapeFault (Draft → Draft)} :
    argument op name = some read ↔ ∃ kind, (name, kind) ∈ op.signature ∧ kind.read name = read := by
  simp only [argument_eq, Option.map_eq_some_iff, lookup_eq_some_iff_mem (nodup_signature op)]

theorem eq_of_mem_signature {kind other : ArgumentKind} (asked : (name, kind) ∈ op.signature)
    (again : (name, other) ∈ op.signature) : other = kind := by
  rw [← lookup_eq_some_iff_mem (nodup_signature op)] at asked again
  exact Option.some.inj (again.symm.trans asked)

/-! ### Reading all arguments -/

/-- What an object gives for the argument with a name, in the form in which it is held. -/
def given (fields : List (String × Json)) (name : String) : Option Json :=
  (fields.lookup name).map Json.normal

theorem given_cons_of_ne {key : String} {x : Json} (apart : name ≠ key) :
    given ((key, x) :: fields) name = given fields name := by
  rw [given, lookup_cons_of_ne apart, given]

theorem given_eq_string_iff {s : String} :
    given fields name = some (.string s) ↔ fields.lookup name = some (.string s) := by
  simp [given, Json.normal_eq_string_iff]

/-- What is not among the fields stays as it is. -/
theorem holds_of_walk_absent (absent : name ∉ fields.map (·.1))
    (done : Raw.walk (argument op) seen d (Raw.ofFields fields) = .ok e) {kind : ArgumentKind}
    {v : Option Json} : kind.Holds name v e ↔ kind.Holds name v d := by
  induction fields generalizing seen d with
  | nil =>
    obtain rfl : d = e := Except.ok.inj done
    rfl
  | cons f rest ih =>
    obtain ⟨key, x⟩ := f
    rw [List.map_cons, List.mem_cons, not_or] at absent
    obtain ⟨-, later⟩ | ⟨read, change, asked, -, readable, later⟩ :=
      Raw.walk_cons_eq_ok_iff.mp done
    · exact ih absent.2 later
    · obtain ⟨k, -, rfl⟩ := argument_eq_some_iff.mp asked
      rw [ih absent.2 later, ArgumentKind.holds_elsewhere readable absent.1]

section

variable (distinct : (fields.map (·.1)).Nodup)
  (shallow : Json.depthOfFields fields ≤ Json.nestingLimit)
  (unmarked : ∀ f ∈ fields, ∀ kind, (f.1, kind) ∈ op.signature → kind.isUnmarked f.2 = true)

include distinct shallow unmarked

/-- Each argument is in the draft as it was given. -/
theorem holds_of_walk {kind : ArgumentKind} (asked : (name, kind) ∈ op.signature)
    (blank : kind.Holds name none d)
    (done : Raw.walk (argument op) seen d (Raw.ofFields fields) = .ok e) :
    kind.Holds name (given fields name) e := by
  induction fields generalizing seen d with
  | nil =>
    obtain rfl : d = e := Except.ok.inj done
    exact blank
  | cons f rest ih =>
    obtain ⟨key, x⟩ := f
    rw [List.map_cons, List.nodup_cons] at distinct
    rw [Json.depthOfFields, Nat.max_le] at shallow
    obtain ⟨first, others⟩ := List.forall_mem_cons.mp unmarked
    obtain ⟨skipped, later⟩ | ⟨read, change, known, -, readable, later⟩ :=
      Raw.walk_cons_eq_ok_iff.mp done
    · -- What is skipped is another field than the argument.
      have apart : name ≠ key := by
        rintro rfl
        have known := argument_eq_some_iff.mpr ⟨kind, asked, rfl⟩
        cases skipped.symm.trans known
      rw [given_cons_of_ne apart]
      exact ih distinct.2 shallow.2 others blank later
    · obtain ⟨k, member, rfl⟩ := argument_eq_some_iff.mp known
      by_cases same : name = key
      · -- It is read here, and nothing after it has the name again.
        subst same
        obtain rfl := eq_of_mem_signature asked member
        rw [holds_of_walk_absent distinct.1 later, given, List.lookup_cons_self, Option.map_some]
        exact ArgumentKind.holds_of_read shallow.1 (first k member) readable d
      · rw [given_cons_of_ne same]
        exact ih distinct.2 shallow.2 others
          ((ArgumentKind.holds_elsewhere readable same kind).mpr blank) later

/-- Fields are read if those that are arguments are of the right kinds. -/
theorem exists_walk (fresh : ∀ f ∈ fields, f.1 ∉ seen)
    (admitted : ∀ f ∈ fields, ∀ kind, (f.1, kind) ∈ op.signature → kind.Admits (some f.2.normal)) :
    ∃ e, Raw.walk (argument op) seen d (Raw.ofFields fields) = .ok e := by
  induction fields generalizing seen d with
  | nil => exact ⟨d, rfl⟩
  | cons f rest ih =>
    obtain ⟨key, x⟩ := f
    rw [List.map_cons, List.nodup_cons] at distinct
    rw [Json.depthOfFields, Nat.max_le] at shallow
    obtain ⟨first, others⟩ := List.forall_mem_cons.mp unmarked
    obtain ⟨fits, later⟩ := List.forall_mem_cons.mp admitted
    obtain ⟨new, unseen⟩ := List.forall_mem_cons.mp fresh
    rw [Raw.ofFields]
    cases asked : argument op key with
    | none =>
      rw [Raw.walk_skipped asked]
      exact ih distinct.2 shallow.2 others unseen later
    | some read =>
      obtain ⟨kind, member, rfl⟩ := argument_eq_some_iff.mp asked
      obtain ⟨change, readable⟩ : ∃ change, kind.read key (.ofJson x) = .ok change :=
        (ArgumentKind.exists_read_iff shallow.1 (first kind member)).mpr (fits kind member)
      rw [Raw.walk_known asked new readable]
      refine ih distinct.2 shallow.2 others (fun g inside again => ?_) later
      rcases List.mem_cons.mp again with same | before
      · exact distinct.1 (List.mem_map.mpr ⟨g, inside, same⟩)
      · exact unseen g inside before

end

end Command

end ActionServer
