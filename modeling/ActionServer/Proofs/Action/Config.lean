import ActionServer.Action.Config
import ActionServer.Proofs.Json.Record
import ActionServer.Proofs.Json.RoundTrip

/-!
# Configurations read back

Writing leaves out what is absent, and reading takes what is left out for absent, so a configuration
is read back as it was. It does not matter whether the fields stand in the order of declaration, as
in a file, or in that of their keys: none of them is repeated. What the names are made of does not
matter either, since every string is read back from its text.
-/

namespace ActionServer

namespace ActionConfig

/-- The fields in the order of their keys. -/
theorem toJson_eq (c : ActionConfig) :
    c.toJson = .object ((c.description.toList.map fun d => ("description", .string d)) ++
      [("internal", .bool c.internal), ("name", .string c.name)] ++
      (c.resource.toList.map fun r => ("resource", .string r))) := by
  obtain ⟨name, description, internal, resource⟩ := c
  cases description <;> cases resource <;>
    simp only [toJson, fields, Json.ofFields, Document.ofFields, Document.insertAll,
      Document.insert, Document.insertField, Document.empty, Document.toJson, Option.toList_none,
      Option.toList_some, List.map_nil, List.map_cons, List.append_nil, List.cons_append,
      List.nil_append, List.foldl_cons, List.foldl_nil, String.reduceEq, String.reduceLT, ↓reduceIte]

/-- A way to write actions that is read back, and whose texts have no doubles in them. -/
structure Readable (write : ActionConfig → Json) : Prop where
  whole : ∀ c, (write c).all Json.isWhole = true
  read : ∀ origin c, ofRaw origin (.ofJson (write c)) = .ok c

theorem readable_written : Readable written where
  whole := by
    rintro ⟨name, description, internal, resource⟩
    cases description <;> cases resource <;> rfl
  read := by
    rintro origin ⟨name, description, internal, resource⟩
    cases description <;> cases resource <;> rfl

theorem readable_toJson : Readable toJson where
  whole := by
    rintro ⟨name, description, internal, resource⟩
    rw [toJson_eq]
    cases description <;> cases resource <;> rfl
  read := by
    rintro origin ⟨name, description, internal, resource⟩
    rw [toJson_eq]
    cases description <;> cases resource <;> rfl

variable {write : ActionConfig → Json}

theorem Readable.whole_items (readable : Readable write) (actions : List ActionConfig) :
    Json.allItems Json.isWhole (actions.map write) = true := by
  induction actions with
  | nil => rfl
  | cons c rest ih => rw [List.map_cons, Json.allItems, readable.whole, ih, Bool.true_and]

/-- Actions are read one after the other. -/
theorem Readable.read_list (readable : Readable write) (origin : Origin)
    (actions : List ActionConfig) :
    Raw.list (ofRaw origin) (.ofJson (.array (actions.map write))) = .ok actions := by
  rw [Raw.ofJson, Raw.list]
  induction actions with
  | nil => rfl
  | cons c rest ih =>
    rw [List.map_cons, Raw.ofItems, List.mapM_cons, readable.read, ih]
    rfl

end ActionConfig

namespace ResourceConfig

/-- The fields in the order of their keys. -/
theorem toJson_eq (c : ResourceConfig) :
    c.toJson = .object (("actions", .array (c.actions.map ActionConfig.toJson)) ::
      c.kind.toList.map fun k => ("type", .string k)) := by
  obtain ⟨kind, actions⟩ := c
  cases kind <;>
    simp only [toJson, Json.ofFields, Document.ofFields, Document.insertAll, Document.insert,
      Document.insertField, Document.empty, Document.toJson, Option.toList_none,
      Option.toList_some, List.map_nil, List.map_cons, List.cons_append, List.nil_append,
      List.foldl_cons, List.foldl_nil, String.reduceEq, String.reduceLT, ↓reduceIte]

section

variable (origin : Origin) {seen : List String} (draft : ResourceConfig)
  (rest : List (Option String × Raw))

theorem walk_type (fresh : "type" ∉ seen) (kind : String) :
    Raw.walk (field origin) seen draft ((some "type", .ofJson (.string kind)) :: rest) =
      Raw.walk (field origin) ("type" :: seen) { draft with kind := some kind } rest := by
  have asked : field origin "type" = some fun r =>
      (Raw.optional Raw.text r).map fun kind c => { c with kind } := rfl
  have present : Raw.optional Raw.text (.ofJson (.string kind)) = .ok (some kind) := rfl
  exact Raw.walk_known asked fresh (congrArg _ present)

theorem walk_actions {write : ActionConfig → Json} (readable : ActionConfig.Readable write)
    (fresh : "actions" ∉ seen) (actions : List ActionConfig) :
    Raw.walk (field origin) seen draft
        ((some "actions", .ofJson (.array (actions.map write))) :: rest) =
      Raw.walk (field origin) ("actions" :: seen) { draft with actions } rest := by
  have asked : field origin "actions" = some fun r =>
      (Raw.list (ActionConfig.ofRaw origin) r).map fun actions c => { c with actions } := rfl
  exact Raw.walk_known asked fresh (congrArg _ (readable.read_list origin actions))

end

/-- What is taken apart into the parts of a configuration is read as that. -/
theorem parse_text_of_ofRaw {c : ResourceConfig} {v : Json} (whole : v.all Json.isWhole = true)
    (read : ofRaw .text (.ofJson v) = .ok c) : parse v.text = .ok c := by
  rw [parse, ofText, Raw.ofText?_text whole]
  dsimp only
  rw [read]

/-- **A configuration is read back from its text**, whether its fields are written in the order of
declaration or in that of their keys. -/
theorem parse_text (c : ResourceConfig) : parse c.text = .ok c ∧ parse c.toJson.text = .ok c := by
  obtain ⟨kind, actions⟩ := c
  constructor
  · have readable := ActionConfig.readable_written
    refine parse_text_of_ofRaw ?_ ?_
    · cases kind <;> simp [Json.all, Json.allFields, Json.isWhole, readable.whole_items]
    · cases kind with
      | none => exact walk_actions .text ⟨none, []⟩ [] readable List.not_mem_nil actions
      | some kind =>
        exact (walk_type .text _ _ List.not_mem_nil kind).trans
          (walk_actions .text _ [] readable (by decide) actions)
  · have readable := ActionConfig.readable_toJson
    rw [toJson_eq]
    refine parse_text_of_ofRaw ?_ ?_
    · cases kind <;> simp [Json.all, Json.allFields, Json.isWhole, readable.whole_items]
    · cases kind with
      | none => exact walk_actions .text ⟨none, []⟩ [] readable List.not_mem_nil actions
      | some kind =>
        exact (walk_actions .text _ _ readable List.not_mem_nil actions).trans
          (walk_type .text _ [] (by decide) kind)

end ResourceConfig

end ActionServer
