import ActionServer.Proofs.Json.RoundTrip

/-!
# Compact text for any reader

The server's own reader limits the nesting and keeps a key for itself. Other readers do neither: for
them every text that can be taken apart has a value, which is the one it was printed from. Compact
text is also one line for them, whatever the strings in it, since no control character stands in it
as itself.
-/

namespace ActionServer

namespace Raw

/-! ### Reading without a limit -/

mutual

/-- The value of a text taken apart, however deep it is and whatever its keys are. -/
def plain? : Raw → Option Json
  | null => some .null
  | bool b => some (.bool b)
  | number n => n.map .number
  | string s => s.map .string
  | array items => (plainItems? items).map .array
  | object fields => (plainFields? fields).map Json.ofFields

def plainItems? : List Raw → Option (List Json)
  | [] => some []
  | x :: xs =>
    match plain? x with
    | some v => (plainItems? xs).map (v :: ·)
    | none => none

def plainFields? : List (Option String × Raw) → Option (List (String × Json))
  | [] => some []
  | (key, x) :: rest =>
    match key, plain? x with
    | some k, some v => (plainFields? rest).map ((k, v) :: ·)
    | _, _ => none

end

mutual

theorem plain?_ofJson (v : Json) : plain? (ofJson v) = some v.normal := by
  cases v with
  | null | bool b | number n | string s => rfl
  | array items => rw [ofJson, plain?, plainItems?_ofItems items, Option.map_some, Json.normal]
  | object fields => rw [ofJson, plain?, plainFields?_ofFields fields, Option.map_some, Json.normal]

theorem plainItems?_ofItems (items : List Json) :
    plainItems? (ofItems items) = some (Json.normalItems items) := by
  cases items with
  | nil => rfl
  | cons x xs =>
    simp only [ofItems, plainItems?, plain?_ofJson x, plainItems?_ofItems xs, Option.map_some,
      Json.normalItems]

theorem plainFields?_ofFields (fields : List (String × Json)) :
    plainFields? (ofFields fields) = some (Json.normalFields fields) := by
  cases fields with
  | nil => rfl
  | cons field rest =>
    obtain ⟨key, x⟩ := field
    simp only [ofFields, plainFields?, plain?_ofJson x, plainFields?_ofFields rest, Option.map_some,
      Json.normalFields]

end

section

variable {unwrap : String → Option Json}

/-- A marked object has no value for a reader that unwraps nothing. -/
theorem valueWith_marked (refuses : ∀ s, unwrap s = none) {fields : List (Option String × Raw)}
    (marked : fields.head?.bind (·.1) = some wrapKey) (d : Nat) :
    valueWith unwrap d (object fields) = none := by
  -- Only an object with one text is unwrapped; any other is refused for its key.
  by_cases single : ∃ s, fields = [(some wrapKey, string (some s))]
  · obtain ⟨s, rfl⟩ := single
    simp [valueWith, refuses]
  · rw [valueWith, if_pos marked, ite_self]
    rintro key s rfl
    obtain rfl : key = wrapKey := by simpa using marked
    exact single ⟨s, rfl⟩

mutual

/-- What a reader finds that limits the nesting and unwraps nothing is found without a limit. -/
theorem plain?_of_valueWith (refuses : ∀ s, unwrap s = none) {d : Nat} (r : Raw) {v : Json}
    (read : valueWith unwrap d r = some v) : plain? r = some v := by
  cases r with
  | null | bool b | number n | string s => simpa only [valueWith, plain?] using read
  | array items =>
    rw [valueWith] at read
    split at read
    · cases read
    · obtain ⟨vs, inner, rfl⟩ := Option.map_eq_some_iff.mp read
      rw [plain?, plainItems?_of_itemsWith refuses items inner, Option.map_some]
  | object fields =>
    by_cases marked : fields.head?.bind (·.1) = some wrapKey
    · rw [valueWith_marked refuses marked] at read
      cases read
    · rw [valueWith_object marked] at read
      split at read
      · cases read
      · obtain ⟨vs, inner, rfl⟩ := Option.map_eq_some_iff.mp read
        rw [plain?, plainFields?_of_fieldsWith refuses fields inner, Option.map_some]

theorem plainItems?_of_itemsWith (refuses : ∀ s, unwrap s = none) {d : Nat} (items : List Raw)
    {vs : List Json} (read : itemsWith unwrap d items = some vs) :
    plainItems? items = some vs := by
  cases items with
  | nil => simpa only [itemsWith, plainItems?] using read
  | cons x xs =>
    rw [itemsWith] at read
    split at read
    · rename_i v first
      obtain ⟨others, rest, rfl⟩ := Option.map_eq_some_iff.mp read
      rw [plainItems?, plain?_of_valueWith refuses x first,
        plainItems?_of_itemsWith refuses xs rest]
      rfl
    · cases read

theorem plainFields?_of_fieldsWith (refuses : ∀ s, unwrap s = none) {d : Nat}
    (fields : List (Option String × Raw)) {vs : List (String × Json)}
    (read : fieldsWith unwrap d fields = some vs) : plainFields? fields = some vs := by
  cases fields with
  | nil => simpa only [fieldsWith, plainFields?] using read
  | cons field others =>
    obtain ⟨key, x⟩ := field
    unfold fieldsWith at read
    split at read
    · rename_i k v first
      obtain ⟨more, rest, rfl⟩ := Option.map_eq_some_iff.mp read
      unfold plainFields?
      rw [plain?_of_valueWith refuses x first, plainFields?_of_fieldsWith refuses others rest]
      rfl
    · cases read

end

end

end Raw

namespace Json

/-- The value of a text, however deep it is and whatever its keys are. -/
def ofPlainText? (s : String) : Option Json :=
  (Raw.ofText? s).bind Raw.plain?

/-- A value with integers for numbers, and with its keys in order as those of every document are. -/
def IsPlain (v : Json) : Prop :=
  v.all isWhole = true ∧ v.all isOrdered = true

instance (v : Json) : Decidable v.IsPlain :=
  inferInstanceAs (Decidable (_ ∧ _))

/-- A plain value is read back from its text. -/
theorem ofPlainText?_text {v : Json} (plain : v.IsPlain) : ofPlainText? v.text = some v := by
  rw [ofPlainText?, Raw.ofText?_text plain.1, Option.bind_some, Raw.plain?_ofJson,
    normal_of_ordered v plain.2]

/-- The server's own reader, where it unwraps nothing, reads the same. -/
theorem ofPlainText?_of_read? {s : String} {v : Json} (read : read? 1 s = some v) :
    ofPlainText? s = some v := by
  obtain ⟨r, parts, value⟩ := Option.bind_eq_some_iff.mp read
  rw [ofPlainText?, parts, Option.bind_some]
  exact Raw.plain?_of_valueWith (fun _ => rfl) r value

end Json

/-! ### No control characters -/

/-- A text without control characters below the blank. -/
def Text.IsPrinted (cs : List Char) : Prop :=
  ∀ c ∈ cs, 0x20 ≤ c.toNat

namespace Text.IsPrinted

variable {cs ds : List Char} {c : Char}

theorem nil : IsPrinted [] := nofun

theorem append (first : IsPrinted cs) (second : IsPrinted ds) : IsPrinted (cs ++ ds) :=
  List.forall_mem_append.mpr ⟨first, second⟩

theorem cons (first : 0x20 ≤ c.toNat) (rest : IsPrinted cs) : IsPrinted (c :: cs) :=
  List.forall_mem_cons.mpr ⟨first, rest⟩

/-- A given text is looked through. -/
theorem of_all (all : cs.all (fun c => 0x20 ≤ c.toNat) = true) : IsPrinted cs :=
  fun c member => of_decide_eq_true (List.all_eq_true.mp all c member)

theorem mono (all : IsPrinted cs) (part : ds ⊆ cs) : IsPrinted ds :=
  fun c member => all c (part member)

theorem replicate_zero (n : Nat) : IsPrinted (List.replicate n '0') := by
  intro c member
  rw [List.eq_of_mem_replicate member]
  decide

theorem toDigits (n : Nat) : IsPrinted (Nat.toDigits 10 n) := by
  intro c member
  have digit := Nat.isDigit_of_mem_toDigits (by omega) (by omega) member
  simp only [Char.isDigit, Bool.and_eq_true, decide_eq_true_eq, ge_iff_le,
    UInt32.le_iff_toNat_le] at digit
  exact Nat.le_trans (by decide) digit.1

end Text.IsPrinted

open Text

theorem Double.isPrinted_arrange {digits : List Char} (printed : IsPrinted digits) (point : Int) :
    IsPrinted (arrange digits point) := by
  have mark : IsPrinted ['.'] := .of_all rfl
  simp only [arrange]
  split
  · exact (printed.append (.replicate_zero _)).append (.of_all rfl)
  split
  · exact ((printed.mono (List.take_subset _ _)).append mark).append
      (printed.mono (List.drop_subset _ _))
  split
  · exact (IsPrinted.append (.cons (by decide) mark) (.replicate_zero _)).append printed
  · have sign : 0x20 ≤ (if point - 1 < 0 then '-' else '+').toNat := by split <;> decide
    refine IsPrinted.append (.append ?_ (.cons (by decide) (.cons sign .nil))) (.toDigits _)
    split
    · exact printed
    · obtain ⟨first, rest⟩ := List.forall_mem_cons.mp printed
      exact .cons first (.cons (by decide) rest)
    · exact .nil

theorem Double.isPrinted_chars (x : Double) : IsPrinted x.chars := by
  have body : IsPrinted (if x.isZero then ['0', '.', '0'] else
      arrange (Nat.toDigits 10 (Decimal.shortest x.magnitude).digits)
        ((Nat.toDigits 10 (Decimal.shortest x.magnitude).digits).length +
          (Decimal.shortest x.magnitude).exponent)) := by
    split
    · exact .of_all rfl
    · exact isPrinted_arrange (.toDigits _) _
  simp only [Double.chars]
  split
  · exact .cons (by decide) body
  · exact body

namespace Json

theorem isPrinted_intChars (i : Int) : IsPrinted (intChars i) := by
  simp only [intChars]
  split
  · exact .cons (by decide) (.toDigits _)
  · exact .toDigits _

theorem isPrinted_escape (c : Char) : IsPrinted (escape c) := by
  have letter (d : Char) (printed : 0x20 ≤ d.toNat) : IsPrinted ['\\', d] :=
    .cons (by decide) (.cons printed .nil)
  have hex : ∀ n < 16, 0x20 ≤ (hexDigit n).toNat := by decide
  simp only [escape]
  -- Seven characters have a letter, the other control characters their number.
  iterate 7
    split
    · exact letter _ (by decide)
  split
  · exact .cons (by decide) <| .cons (by decide) <| .cons (by decide) <| .cons (by decide) <|
      .cons (hex _ (by omega)) <| .cons (hex _ (by omega)) .nil
  · rename_i solid
    exact .cons (Nat.not_lt.mp solid) .nil

theorem isPrinted_quoteChars (s : String) : IsPrinted (quoteChars s) := by
  refine .cons (by decide) (.append (fun c member => ?_) (.cons (by decide) .nil))
  obtain ⟨d, -, inside⟩ := List.mem_flatMap.mp member
  exact isPrinted_escape d c inside

mutual

/-- The text of a value, whatever its strings are and its doubles too. -/
theorem isPrinted_chars (v : Json) : IsPrinted v.chars := by
  cases v with
  | null => exact .of_all rfl
  | bool b => cases b <;> exact .of_all rfl
  | number n =>
    cases n with
    | integer i => exact isPrinted_intChars i.val
    | double x => exact x.isPrinted_chars
  | string s => exact isPrinted_quoteChars s
  | array items =>
    exact .cons (by decide) (.append (isPrinted_itemsChars items) (.cons (by decide) .nil))
  | object fields =>
    exact .cons (by decide) (.append (isPrinted_fieldsChars fields) (.cons (by decide) .nil))

theorem isPrinted_itemsChars (items : List Json) : IsPrinted (itemsChars items) := by
  -- The last item has no comma behind it.
  match items with
  | [] => exact .nil
  | [x] => exact isPrinted_chars x
  | x :: y :: rest =>
    exact .append (isPrinted_chars x) (.cons (by decide) (isPrinted_itemsChars (y :: rest)))

theorem isPrinted_fieldsChars (fields : List (String × Json)) :
    IsPrinted (fieldsChars fields) := by
  match fields with
  | [] => exact .nil
  | [(key, x)] => exact .append (isPrinted_quoteChars key) (.cons (by decide) (isPrinted_chars x))
  | (key, x) :: f :: rest =>
    have field : IsPrinted (quoteChars key ++ ':' :: x.chars) :=
      .append (isPrinted_quoteChars key) (.cons (by decide) (isPrinted_chars x))
    exact .append field (.cons (by decide) (isPrinted_fieldsChars (f :: rest)))

end

end Json

end ActionServer
