import ActionServer.Json.Printer
import ActionServer.Json.Reader

/-!
# Strings and integers read back

What is written for a string and for an integer is read as that string and that integer, and the
text behind it is left. A string ends at its closing quote, whatever follows; an integer ends where
no digit, point or exponent follows, which is so wherever a value may stand.
-/

namespace ActionServer.Raw

/-! ### Integers -/

/-- What may stand behind a value in compact text. -/
def Follows (rest : List Char) : Prop :=
  ∀ c, rest.head? = some c → c = ',' ∨ c = ']' ∨ c = '}'

theorem follows_nil : Follows [] := nofun

theorem follows_cons {c : Char} (closing : c = ',' ∨ c = ']' ∨ c = '}') (rest : List Char) :
    Follows (c :: rest) := by
  intro d first
  obtain rfl : c = d := Option.some.inj first
  exact closing

theorem toDigits_eq_digit_cons (n : Nat) :
    ∃ c cs, Nat.toDigits 10 n = c :: cs ∧ c.isDigit = true := by
  obtain ⟨c, cs, written⟩ := List.exists_cons_of_ne_nil (Nat.toDigits_ne_nil (n := n) (b := 10))
  refine ⟨c, cs, written, Nat.isDigit_of_mem_toDigits (b := 10) (n := n) (by omega) (by omega) ?_⟩
  rw [written]
  exact List.mem_cons_self

/-- A number other than zero is written without a zero in front. -/
theorem toDigits_eq_cons {n : Nat} (nonzero : n ≠ 0) :
    ∃ c ds, Nat.toDigits 10 n = c :: ds ∧ c ≠ '0' := by
  induction n using Nat.strongRecOn with
  | ind n ih =>
    by_cases small : n < 10
    · refine ⟨n.digitChar, [], Nat.toDigits_of_lt_base small, ?_⟩
      rwa [ne_eq, Nat.digitChar_eq_zero]
    · obtain ⟨c, ds, front, leading⟩ := ih (n / 10) (by omega) (by omega)
      refine ⟨c, ds ++ [(n % 10).digitChar], ?_, leading⟩
      rw [Nat.toDigits_of_base_le (by omega) (by omega), front, List.cons_append]

private theorem digits_split {cs rest : List Char} (digits : ∀ c ∈ cs, c.isDigit = true)
    (follows : Follows rest) :
    (cs ++ rest).takeWhile Char.isDigit = cs ∧ (cs ++ rest).dropWhile Char.isDigit = rest := by
  rw [List.takeWhile_append_of_pos digits, List.dropWhile_append_of_pos digits]
  cases rest with
  | nil => simp
  | cons c rest => rcases follows c rfl with rfl | rfl | rfl <;> simp

theorem readWhole_toDigits (n : Nat) {rest : List Char} (follows : Follows rest) :
    readWhole (Nat.toDigits 10 n ++ rest) = some (digitsOf (Nat.toDigits 10 n), rest) := by
  by_cases zero : n = 0
  · subst zero
    rw [Nat.toDigits_zero, List.singleton_append]
    cases rest with
    | nil => rfl
    | cons c rest => rcases follows c rfl with rfl | rfl | rfl <;> rfl
  · obtain ⟨c, ds, written, leading⟩ := toDigits_eq_cons zero
    have digits : ∀ d ∈ c :: ds, d.isDigit = true := fun d member =>
      Nat.isDigit_of_mem_toDigits (by omega) (by omega) (written ▸ member)
    obtain ⟨taken, left⟩ := digits_split
      (fun d member => digits d (List.mem_cons_of_mem _ member)) follows
    simp only [written, List.cons_append, readWhole, if_neg leading, digits c List.mem_cons_self,
      if_true, taken, left]

theorem readFraction_of_follows {rest : List Char} (follows : Follows rest) :
    readFraction rest = some (none, rest) := by
  cases rest with
  | nil => rfl
  | cons c rest => rcases follows c rfl with rfl | rfl | rfl <;> rfl

theorem readExponent_of_follows {rest : List Char} (follows : Follows rest) :
    readExponent rest = some (none, rest) := by
  cases rest with
  | nil => rfl
  | cons c rest => rcases follows c rfl with rfl | rfl | rfl <;> rfl

/-- Digits whose number fits sixty-four bits are all taken in. -/
theorem gather_of_lt {n : Nat} {ds : List Nat}
    (fits : ds.foldl (fun n d => n * 10 + d) n < Nat.pow 2 64) :
    Number.gather n ds = (ds.foldl (fun n d => n * 10 + d) n, []) := by
  have grows (ds : List Nat) (n : Nat) : n ≤ ds.foldl (fun n d => n * 10 + d) n := by
    induction ds generalizing n with
    | nil => exact Nat.le_refl n
    | cons d rest ih => exact Nat.le_trans (by omega) (ih (n * 10 + d))
  -- The number only grows, so if the whole of it fits, so does what stands before any digit.
  induction ds generalizing n with
  | nil => rfl
  | cons d rest ih =>
    rw [Number.gather, if_pos (Nat.lt_of_le_of_lt (grows rest (n * 10 + d)) fits)]
    exact ih fits

theorem gather_toDigits {n : Nat} (fits : n < Nat.pow 2 64) :
    Number.gather 0 (digitsOf (Nat.toDigits 10 n)) = (n, []) := by
  have value : (digitsOf (Nat.toDigits 10 n)).foldl (fun n d => n * 10 + d) 0 = n := by
    calc (digitsOf (Nat.toDigits 10 n)).foldl (fun n d => n * 10 + d) 0
        = (Nat.toDigits 10 n).foldl (fun n c => 10 * n + (c.toNat - '0'.toNat)) 0 := by
          simp only [digitsOf, List.foldl_map, Nat.mul_comm]
          rfl
      _ = n := Nat.ofDigitChars_ten_toDigits
  have gathered := gather_of_lt (n := 0) (value.symm ▸ fits)
  rwa [value] at gathered

theorem ofLiteral?_toDigits {negative : Bool} {n : Nat} {i : WideInt}
    (value : i.val = if negative then -(n : Int) else n) (signed : negative = true → n ≠ 0) :
    Number.ofLiteral? ⟨negative, digitsOf (Nat.toDigits 10 n), none, none⟩ =
      some (.integer i) := by
  have range := i.in_range
  have fits : n < Nat.pow 2 64 := by
    have limit : Nat.pow 2 64 = 18446744073709551616 := by decide
    cases negative <;> simp at value <;> omega
  have plain : (!(negative && n == 0)) = true := by
    cases negative with
    | false => rfl
    | true => simpa using signed rfl
  have whole : WideInt.ofInt? (if negative then -(n : Int) else n) = some i := by
    rw [← value, WideInt.ofInt?, dif_pos range]
  simp only [Number.ofLiteral?, gather_toDigits fits, Option.isNone_none, List.isEmpty_nil,
    Bool.and_self, plain, if_true, whole]

/-- What is left of a number once its sign is read. -/
private theorem readNumber_rest {negative : Bool} {n : Nat} {i : WideInt}
    (value : i.val = if negative then -(n : Int) else n) (signed : negative = true → n ≠ 0)
    {rest : List Char} (follows : Follows rest) :
    (do
      let (whole, cs) ← readWhole (Nat.toDigits 10 n ++ rest)
      let (fraction, cs) ← readFraction cs
      let (exponent, cs) ← readExponent cs
      some (Number.ofLiteral? ⟨negative, whole, fraction, exponent⟩, cs)) =
      some (some (.integer i), rest) := by
  simp only [readWhole_toDigits n follows, readFraction_of_follows follows,
    readExponent_of_follows follows, ofLiteral?_toDigits value signed, Option.bind_eq_bind,
    Option.bind_some]

/-- An integer is read back. -/
theorem readNumber_intChars (i : WideInt) {rest : List Char} (follows : Follows rest) :
    readNumber (Json.intChars i.val ++ rest) = some (some (.integer i), rest) := by
  simp only [Json.intChars]
  split
  · rename_i negative
    rw [List.cons_append]
    have value : i.val = if true then -(i.val.natAbs : Int) else i.val.natAbs := by
      rw [if_pos rfl]
      omega
    exact readNumber_rest value (fun _ => by omega) follows
  · rename_i positive
    have value : i.val = if false then -(i.val.toNat : Int) else i.val.toNat := by
      rw [if_neg Bool.false_ne_true]
      omega
    have read := readNumber_rest value nofun follows
    obtain ⟨c, cs, written, digit⟩ := toDigits_eq_digit_cons i.val.toNat
    -- The first digit is no sign, so nothing is taken off in front of it.
    have unsigned : c ≠ '-' := by
      rintro rfl
      exact absurd digit (by decide)
    rw [written, List.cons_append] at read ⊢
    simp only [readNumber]
    split
    · rename_i sign
      exact absurd (List.cons.inj sign).1 unsigned
    · exact read

/-! ### Strings -/

private theorem hexValue?_hexDigit {n : Nat} (small : n < 16) :
    hexValue? (Json.hexDigit n) = some n := by
  decide +revert

/-- An escape with four digits is read as the control character that it stands for. -/
private theorem readString_control {c : Char} (control : c.toNat < 0x20) (fuel : Nat)
    (sofar : List Char) (whole : Bool) (rest : List Char) :
    readString (fuel + 1) sofar whole
        ('\\' :: 'u' :: '0' :: '0' :: Json.hexDigit (c.toNat / 16) ::
          Json.hexDigit (c.toNat % 16) :: rest) =
      readString fuel (c :: sofar) whole rest := by
  have unit : hexUnit? ('0' :: '0' :: Json.hexDigit (c.toNat / 16) ::
      Json.hexDigit (c.toNat % 16) :: rest) = some (c.toNat, rest) := by
    have zero : hexValue? '0' = some 0 := by decide
    simp only [hexUnit?, zero, hexValue?_hexDigit (n := c.toNat / 16) (by omega),
      hexValue?_hexDigit (n := c.toNat % 16) (by omega), Option.bind_eq_bind, Option.bind_some,
      Option.some.injEq, Prod.mk.injEq, and_true]
    omega
  have pair : pairUnit c.toNat rest = (some c, rest) := by
    unfold pairUnit
    rw [if_pos (.inl (by omega)), Char.ofNat_toNat]
  simp [readString, unit, pair]

/-- A character is read back from its text, whatever comes before or after. -/
theorem readString_escape (c : Char) (fuel : Nat) (sofar : List Char) (whole : Bool)
    (rest : List Char) :
    readString (fuel + 1) sofar whole (Json.escape c ++ rest) =
      readString fuel (c :: sofar) whole rest := by
  by_cases short : c ∈ ['"', '\\', '\x08', '\x0c', '\n', '\r', '\t']
  · -- Each of these has a letter of its own.
    simp only [List.mem_cons, List.not_mem_nil, or_false] at short
    rcases short with rfl | rfl | rfl | rfl | rfl | rfl | rfl <;> rfl
  · simp only [List.mem_cons, List.not_mem_nil, or_false, not_or] at short
    obtain ⟨quote, slash, back, feed, line, carriage, tab⟩ := short
    simp only [Json.escape, if_neg quote, if_neg slash, if_neg back, if_neg feed, if_neg line,
      if_neg carriage, if_neg tab]
    split
    · rename_i control
      exact readString_control control fuel sofar whole rest
    · rename_i plain
      simp only [List.cons_append, List.nil_append, readString, if_neg quote, if_neg slash,
        if_neg plain]

theorem readString_flatMap_escape (cs : List Char) {fuel : Nat} (enough : cs.length < fuel)
    (sofar : List Char) (rest : List Char) :
    readString fuel sofar true (cs.flatMap Json.escape ++ '"' :: rest) =
      some (some (String.ofList (sofar.reverse ++ cs)), rest) := by
  induction cs generalizing fuel sofar with
  | nil =>
    obtain ⟨fuel, rfl⟩ := Nat.exists_eq_add_of_lt enough
    simp [readString]
  | cons c cs ih =>
    obtain ⟨more, rfl⟩ : ∃ more, fuel = more + 1 := ⟨fuel - 1, by omega⟩
    rw [List.flatMap_cons, List.append_assoc, readString_escape,
      ih (by simp only [List.length_cons] at enough; omega)]
    simp

private theorem length_le_flatMap_escape (cs : List Char) :
    cs.length ≤ (cs.flatMap Json.escape).length := by
  have one (c : Char) : 1 ≤ (Json.escape c).length := by
    simp only [Json.escape]
    grind
  induction cs with
  | nil => exact Nat.le_refl 0
  | cons c cs ih =>
    have := one c
    rw [List.flatMap_cons, List.length_append, List.length_cons]
    omega

/-- A string is read back after its opening quote. -/
theorem readString_quoteChars (s : String) (rest : List Char) :
    ∃ body, Json.quoteChars s ++ rest = '"' :: body ∧
      readString (body.length + 1) [] true body = some (some s, rest) := by
  refine ⟨s.toList.flatMap Json.escape ++ '"' :: rest, by simp [Json.quoteChars], ?_⟩
  have longer := length_le_flatMap_escape s.toList
  rw [readString_flatMap_escape s.toList (by rw [List.length_append]; omega)]
  simp

end ActionServer.Raw
