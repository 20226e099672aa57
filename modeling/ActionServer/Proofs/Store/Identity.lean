import ActionServer.Proofs.Document

/-!
# Looking records up by identity

The filter for an identity has one field, so a record satisfies it exactly when its `id` equals that
value. A text equals nothing but itself, which is what makes generated identities keys.
-/

namespace ActionServer

theorem Json.string_beq_iff (s : String) (v : Json) :
    (Json.string s == v) = true ↔ v = .string s := by
  change Json.same (.string s) v = true ↔ _
  cases v with
  | string t =>
    simp only [Json.same, beq_iff_eq, Json.string.injEq]
    exact eq_comm
  | _ => simp [Json.same]

namespace Document

/-- Whether the field `id` equals a value. -/
def hasId (d : Document) (id : Json) : Bool :=
  (d.get? idField).any (· == id)

theorem satisfies_identityFilter (d : Document) (id : Json) :
    d.satisfies (identityFilter id) = d.hasId id := by
  have fields : (identityFilter id).fields = [(idField, id)] := rfl
  simp only [satisfies, fields, List.all_cons, List.all_nil, Bool.and_true, hasId]
  cases d.get? idField <;> rfl

theorem hasId_iff_of_string {d : Document} {key : String}
    (read : d.get? idField = some (.string key)) (id : Json) :
    d.hasId id = true ↔ id = .string key := by
  simp [hasId, read, Json.string_beq_iff]

/-- An identity is what the field `id` reads, as long as that is usable. -/
theorem get?_of_identity? {d : Document} {id : Json} (known : d.identity? = some id) :
    d.get? idField = some id := by
  simp only [identity?, Option.filter_eq_some_iff] at known
  exact known.1

end Document

end ActionServer
