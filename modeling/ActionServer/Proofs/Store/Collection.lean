import ActionServer.Proofs.Store.Identity
import ActionServer.Store.Collection

/-!
# Records of a collection

One lemma for each way in which a collection is written: an insertion appends unless the identity is
taken, an update replaces the first record that its filter fits. Everything else about collections
follows from where these two put the record.
-/

namespace ActionServer

namespace Collection

theorem holds_eq (c : Collection) (id : Json) : c.holds id = c.records.any (·.hasId id) := by
  simp only [holds, Document.hasId]
  congr 1
  funext r
  cases r.get? idField <;> rfl

theorem identified_of_none {element : Document} (unknown : element.identity? = none)
    (fresh : String) : identified fresh element = element.insert idField (.string fresh) := by
  simp [identified, unknown]

/-- An element without identity is appended under a fresh identity that no record has. -/
theorem insert_fresh {c : Collection} {fresh : String} {element : Document}
    (unknown : element.identity? = none)
    (unused : ∀ r ∈ c.records, r.hasId (.string fresh) = false) :
    c.insert fresh element =
      .ok (element.insert idField (.string fresh),
        { c with records := c.records ++ [element.insert idField (.string fresh)] }) := by
  have free : c.holds (.string fresh) = false := by
    rw [holds_eq, List.any_eq_false]
    simpa using unused
  simp [insert, identified_of_none unknown, free]

theorem replacement_of_identity {element : Document} {id : Json}
    (known : element.identity? = some id) (old : Document) : replacement old element = element := by
  simp [replacement, known]

theorem replaceFirst_eq_none {filter element : Document} {records : List Document}
    (absent : ∀ r ∈ records, r.satisfies filter = false) :
    replaceFirst filter element records = none := by
  induction records with
  | nil => rfl
  | cons r rest ih =>
    have misses := absent r List.mem_cons_self
    have others := ih fun q member => absent q (List.mem_cons_of_mem _ member)
    simp [replaceFirst, misses, others]

/-- The record that is replaced is the first one that fits, and the others stay where they are. -/
theorem replaceFirst_append {filter element r : Document} {before after : List Document}
    (earlier : ∀ q ∈ before, q.satisfies filter = false) (fits : r.satisfies filter = true) :
    replaceFirst filter element (before ++ r :: after) =
      some (replacement r element, before ++ replacement r element :: after) := by
  induction before with
  | nil => simp [replaceFirst, fits]
  | cons q rest ih =>
    have misses := earlier q List.mem_cons_self
    have later := ih fun p member => earlier p (List.mem_cons_of_mem _ member)
    simp [replaceFirst, misses, later]

end Collection

end ActionServer
