import ActionServer.Proofs.Store.Identity
import Mathlib.Data.List.Nodup

/-!
# Maps of records

A finite map from identities to documents that keeps its keys in the order in which they came. Its
keys are texts, as generated identities are; it can be asked for any value, and finds nothing under
one that is no text.
-/

namespace ActionServer

structure RecordMap where
  entries : List (String × Document)
  distinct : (entries.map (·.1)).Nodup

namespace RecordMap

def empty : RecordMap := ⟨[], List.nodup_nil⟩

def keys (m : RecordMap) : List String :=
  m.entries.map (·.1)

/-- The documents in the order of their keys. -/
def documents (m : RecordMap) : List Document :=
  m.entries.map (·.2)

/-- The document under an identity. -/
def get? (m : RecordMap) (id : Json) : Option Document :=
  (m.entries.find? fun e => Json.string e.1 == id).map (·.2)

/-- Adds a key, which becomes the last one. -/
def add (m : RecordMap) (key : String) (document : Document) (isNew : key ∉ m.keys) : RecordMap where
  entries := m.entries ++ [(key, document)]
  distinct := by
    rw [List.map_append]
    refine List.nodup_append.mpr ⟨m.distinct, List.nodup_singleton _, ?_⟩
    intro a old b last same
    have named : b = key := List.mem_singleton.mp last
    rw [same, named] at old
    exact isNew old

private theorem map_fst_replace (entries : List (String × Document)) (id : Json)
    (document : Document) :
    (entries.map fun e => if Json.string e.1 == id then (e.1, document) else e).map (·.1) =
      entries.map (·.1) := by
  rw [List.map_map]
  apply List.map_congr_left
  intro e _
  simp only [Function.comp_apply]
  split <;> rfl

/-- Changes the document under an identity; the key keeps its place. -/
def replace (m : RecordMap) (id : Json) (document : Document) : RecordMap where
  entries := m.entries.map fun e => if Json.string e.1 == id then (e.1, document) else e
  distinct := by
    rw [map_fst_replace]
    exact m.distinct

@[simp] theorem keys_replace (m : RecordMap) (id : Json) (document : Document) :
    (m.replace id document).keys = m.keys :=
  map_fst_replace m.entries id document

@[simp] theorem documents_add (m : RecordMap) (key : String) (document : Document)
    (isNew : key ∉ m.keys) : (m.add key document isNew).documents = m.documents ++ [document] := by
  simp [documents, add]

theorem string_beq_eq_false {key other : String} (different : other ≠ key) :
    (Json.string other == Json.string key) = false := by
  rw [Bool.eq_false_iff, ne_eq, Json.string_beq_iff, Json.string.injEq]
  exact fun same => different same.symm

/-- An identity that is found is a key, and it stands at one place only. -/
theorem entries_of_get? {m : RecordMap} {id : Json} {document : Document}
    (found : m.get? id = some document) :
    ∃ key before after, id = .string key ∧ m.entries = before ++ (key, document) :: after ∧
      (∀ e ∈ before, e.1 ≠ key) ∧ ∀ e ∈ after, e.1 ≠ key := by
  obtain ⟨⟨key, own⟩, first, rfl⟩ := Option.map_eq_some_iff.mp found
  obtain ⟨fits, before, after, entries, earlier⟩ := List.find?_eq_some_iff_append.mp first
  have named : id = .string key := (Json.string_beq_iff key id).mp fits
  have unique := m.distinct
  rw [entries, List.map_append, List.map_cons, List.nodup_append, List.nodup_cons] at unique
  refine ⟨key, before, after, named, entries, ?_, ?_⟩
  · intro e member same
    exact unique.2.2 e.1 (List.mem_map_of_mem member) key List.mem_cons_self same
  · intro e member same
    exact unique.2.1.1 (List.mem_map.mpr ⟨e, member, same⟩)

/-- Replacing changes the one entry of the identity. -/
theorem entries_replace (m : RecordMap) {key : String} {old : Document}
    {before after : List (String × Document)} (new : Document)
    (entries : m.entries = before ++ (key, old) :: after)
    (earlier : ∀ e ∈ before, e.1 ≠ key) (later : ∀ e ∈ after, e.1 ≠ key) :
    (m.replace (.string key) new).entries = before ++ (key, new) :: after := by
  have others (part : List (String × Document)) (different : ∀ e ∈ part, e.1 ≠ key) :
      part.map (fun e => if Json.string e.1 == .string key then (e.1, new) else e) = part := by
    refine (List.map_congr_left fun e member => ?_).trans (List.map_id part)
    simp [string_beq_eq_false (different e member)]
  have here : (Json.string key == .string key) = true := (Json.string_beq_iff _ _).mpr rfl
  simp only [replace, entries, List.map_append, List.map_cons, others before earlier,
    others after later, here, if_true]

end RecordMap

end ActionServer
