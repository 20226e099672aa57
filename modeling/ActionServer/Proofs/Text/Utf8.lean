import ActionServer.Text.Utf8

/-!
# Reading back written text

The bytes of a text are the bytes of its characters, one after the other, and the first byte of each
says how many there are. So a text comes back from its bytes, character by character.
-/

namespace ActionServer.Utf8

private theorem toList_loop (bytes : ByteArray) (i : Nat) (sofar : List UInt8) :
    ByteArray.toList.loop bytes i sofar = sofar.reverse ++ bytes.data.toList.drop i := by
  have size : bytes.data.toList.length = bytes.size := by simp
  induction left : bytes.size - i generalizing i sofar with
  | zero =>
    rw [ByteArray.toList.loop, if_neg (by omega), List.drop_eq_nil_of_le (by omega)]
    simp
  | succ n ih =>
    rw [ByteArray.toList.loop, if_pos (by omega), ih _ _ (by omega),
      List.drop_eq_getElem_cons (i := i) (by omega)]
    have inside : i < bytes.data.size := by simp; omega
    simp [ByteArray.get!, getElem!_pos bytes.data i inside]

/-- The bytes of a text are those of its characters. -/
theorem encode_eq (s : String) : encode s = s.toList.flatMap String.utf8EncodeChar := by
  have bytes : s.toByteArray.data.toList = s.toList.flatMap String.utf8EncodeChar := by
    rw [← String.utf8Encode_toList]
    simp [List.utf8Encode]
  simp [encode, ByteArray.toList, toList_loop, bytes]

private theorem toNat_ofNat {n : Nat} (small : n < 256) : (UInt8.ofNat n).toNat = n :=
  UInt8.toNat_ofNat_of_lt' small

/-- A tail byte carries six bits. -/
private theorem isTail_ofNat (n : Nat) : isTail (UInt8.ofNat (n % 64 + 128)) = true := by
  simp [isTail, UInt8.le_iff_toNat_le]
  omega

private theorem payload_ofNat (n : Nat) : payload (UInt8.ofNat (n % 64 + 128)) = n % 64 := by
  simp only [payload, UInt8.toNat_and, UInt8.toNat_ofNat']
  rw [show (0x3F : UInt8).toNat = 2 ^ 6 - 1 from rfl, Nat.and_two_pow_sub_one_eq_mod]
  omega

/-- The first bytes of a sequence of two, three or four carry what a mask keeps of them. -/
private theorem lead_ofNat {size n mark : Nat} (mask : UInt8)
    (masked : ∀ m, m &&& mask.toNat = m % size) (fits : n % size + mark < 256)
    (aligned : mark % size = 0) :
    (UInt8.ofNat (n % size + mark) &&& mask).toNat = n % size := by
  rw [UInt8.toNat_and, toNat_ofNat fits, masked, Nat.add_mod, aligned]
  simp

private theorem head_two {a b : UInt8} (rest : List UInt8) (low : 0xC2 ≤ a.toNat)
    (high : a.toNat ≤ 0xDF) (tail : isTail b = true) :
    head a (b :: rest) =
      .char (Char.ofNat ((a &&& 0x1F).toNat * 0x40 + payload b)) 2 rest := by
  have above : ¬a < 0x80 := by rw [UInt8.lt_iff_toNat_lt]; simp; omega
  have two : 0xC2 ≤ a ∧ a ≤ 0xDF := by simp only [UInt8.le_iff_toNat_le]; exact ⟨low, high⟩
  simp [head, above, two, tail]

private theorem head_three {a b c : UInt8} (rest : List UInt8) (low : 0xE0 ≤ a.toNat)
    (high : a.toNat ≤ 0xEF) (second : second3 a b = true) (tail : isTail c = true) :
    head a (b :: c :: rest) =
      .char (Char.ofNat ((a &&& 0x0F).toNat * 0x1000 + payload b * 0x40 + payload c)) 3 rest := by
  have above : ¬a < 0x80 := by rw [UInt8.lt_iff_toNat_lt]; simp; omega
  have two : ¬a ≤ 0xDF := by simp only [UInt8.le_iff_toNat_le]; simp; omega
  have three : 0xE0 ≤ a ∧ a ≤ 0xEF := by simp only [UInt8.le_iff_toNat_le]; exact ⟨low, high⟩
  simp [head, above, two, three, second, tail]

private theorem head_four {a b c d : UInt8} (rest : List UInt8) (low : 0xF0 ≤ a.toNat)
    (high : a.toNat ≤ 0xF4) (second : second4 a b = true) (third : isTail c = true)
    (tail : isTail d = true) :
    head a (b :: c :: d :: rest) =
      .char (Char.ofNat ((a &&& 0x07).toNat * 0x40000 + payload b * 0x1000 + payload c * 0x40 +
        payload d)) 4 rest := by
  have above : ¬a < 0x80 := by rw [UInt8.lt_iff_toNat_lt]; simp; omega
  have two : ¬a ≤ 0xDF := by simp only [UInt8.le_iff_toNat_le]; simp; omega
  have three : ¬a ≤ 0xEF := by simp only [UInt8.le_iff_toNat_le]; simp; omega
  have four : 0xF0 ≤ a ∧ a ≤ 0xF4 := by simp only [UInt8.le_iff_toNat_le]; exact ⟨low, high⟩
  simp [head, above, two, three, four, second, third, tail]

private theorem second3_ofNat {v : Nat} (small : v ≤ 0xFFFF) (large : 0x7FF < v)
    (valid : v < 0xD800 ∨ 0xDFFF < v) :
    second3 (UInt8.ofNat (v / 4096 % 16 + 0xE0)) (UInt8.ofNat (v / 64 % 64 + 0x80)) = true := by
  simp only [second3, isTail, beq_iff_eq, ← UInt8.toNat_inj, UInt8.le_iff_toNat_le]
  simp
  split
  · omega
  · split <;> omega

private theorem second4_ofNat {v : Nat} (large : 0xFFFF < v) (valid : v < 0x110000) :
    second4 (UInt8.ofNat (v / 262144 % 8 + 0xF0)) (UInt8.ofNat (v / 4096 % 64 + 0x80)) = true := by
  simp only [second4, isTail, beq_iff_eq, ← UInt8.toNat_inj, UInt8.le_iff_toNat_le]
  simp
  split
  · omega
  · split <;> omega

/-- Reading gives back the character whose bytes come first. -/
theorem head_utf8EncodeChar (c : Char) (rest : List UInt8) :
    ∃ first more, String.utf8EncodeChar c = first :: more ∧
      head first (more ++ rest) = .char c (more.length + 1) rest := by
  have valid : c.toNat < 0xD800 ∨ 0xDFFF < c.toNat ∧ c.toNat < 0x110000 := c.valid
  have same : ∀ n, n = c.toNat → Char.ofNat n = c := fun n equal => equal ▸ c.ofNat_toNat
  have value : c.val.toNat = c.toNat := rfl
  -- One case for each length; in each, the ranges that `head` tests are facts about the number.
  generalize c.toNat = v at *
  simp only [String.utf8EncodeChar, value]
  split
  · refine ⟨_, _, rfl, ?_⟩
    have one : UInt8.ofNat v < 0x80 := by rw [UInt8.lt_iff_toNat_lt]; simp; omega
    have code : (UInt8.ofNat v).toNat = v := toNat_ofNat (by omega)
    simp [head, one, code, same v rfl]
  split
  · refine ⟨_, _, rfl, ?_⟩
    have lead : (UInt8.ofNat (v / 64 % 32 + 0xC0) &&& 0x1F).toNat = v / 64 % 32 :=
      lead_ofNat 0x1F (Nat.and_two_pow_sub_one_eq_mod · 5) (by omega) rfl
    have code : (UInt8.ofNat (v / 64 % 32 + 0xC0)).toNat = v / 64 % 32 + 0xC0 :=
      toNat_ofNat (by omega)
    refine (head_two rest (by omega) (by omega) (isTail_ofNat v)).trans ?_
    rw [payload_ofNat, same _ (by omega)]
    rfl
  split
  · refine ⟨_, _, rfl, ?_⟩
    have lead : (UInt8.ofNat (v / 4096 % 16 + 0xE0) &&& 0x0F).toNat = v / 4096 % 16 :=
      lead_ofNat 0x0F (Nat.and_two_pow_sub_one_eq_mod · 4) (by omega) rfl
    have code : (UInt8.ofNat (v / 4096 % 16 + 0xE0)).toNat = v / 4096 % 16 + 0xE0 :=
      toNat_ofNat (by omega)
    have second := second3_ofNat (v := v) (by omega) (by omega) (by omega)
    refine (head_three rest (by omega) (by omega) second (isTail_ofNat v)).trans ?_
    rw [payload_ofNat, payload_ofNat, same _ (by omega)]
    rfl
  · refine ⟨_, _, rfl, ?_⟩
    have lead : (UInt8.ofNat (v / 262144 % 8 + 0xF0) &&& 0x07).toNat = v / 262144 % 8 :=
      lead_ofNat 0x07 (Nat.and_two_pow_sub_one_eq_mod · 3) (by omega) rfl
    have code : (UInt8.ofNat (v / 262144 % 8 + 0xF0)).toNat = v / 262144 % 8 + 0xF0 :=
      toNat_ofNat (by omega)
    have second := second4_ofNat (v := v) (by omega) (by omega)
    refine (head_four rest (by omega) (by omega) second (isTail_ofNat _) (isTail_ofNat v)).trans ?_
    rw [payload_ofNat, payload_ofNat, payload_ofNat, same _ (by omega)]
    rfl

private theorem decodeFrom_flatMap (cs : List Char) (fuel count : Nat) (sofar : List Char)
    (enough : (cs.flatMap String.utf8EncodeChar).length ≤ fuel) :
    decodeFrom fuel count sofar (cs.flatMap String.utf8EncodeChar) = .ok (sofar.reverse ++ cs) := by
  induction cs generalizing fuel count sofar with
  | nil => cases fuel <;> simp [decodeFrom]
  | cons c rest ih =>
    obtain ⟨first, more, bytes, read⟩ := head_utf8EncodeChar c (rest.flatMap String.utf8EncodeChar)
    simp only [List.flatMap_cons, bytes, List.cons_append, List.length_cons,
      List.length_append] at enough ⊢
    cases fuel with
    | zero => omega
    | succ fuel =>
      rw [decodeFrom, read]
      simpa using ih fuel (count + (more.length + 1)) (c :: sofar) (by omega)

/-- Every text comes back from its bytes. -/
theorem decode_encode (s : String) : decode (encode s) = .ok s := by
  simp [decode, encode_eq, decodeFrom_flatMap, Except.map]

theorem encode_injective : Function.Injective encode := by
  intro s t same
  have read := decode_encode t
  rw [← same, decode_encode] at read
  exact Except.ok.inj read

/-- A character of ASCII is one byte, which is its number. -/
theorem utf8EncodeChar_ascii {c : Char} (small : c.toNat < 0x80) :
    String.utf8EncodeChar c = [UInt8.ofNat c.toNat] := by
  have value : c.val.toNat ≤ 0x7F := Nat.le_of_lt_succ small
  simp only [String.utf8EncodeChar, if_pos value]
  rfl

/-- A character beyond ASCII has a byte beyond ASCII. -/
theorem exists_high_byte {c : Char} (large : 0x80 ≤ c.toNat) :
    ∃ b ∈ String.utf8EncodeChar c, 0x80 ≤ b.toNat := by
  have value : ¬c.val.toNat ≤ 0x7F := Nat.not_le.mpr large
  simp only [String.utf8EncodeChar, if_neg value]
  generalize c.val.toNat = v
  split
  · refine ⟨_, List.mem_cons_self, ?_⟩
    rw [toNat_ofNat (by omega)]
    omega
  split
  · refine ⟨_, List.mem_cons_self, ?_⟩
    rw [toNat_ofNat (by omega)]
    omega
  · refine ⟨_, List.mem_cons_self, ?_⟩
    rw [toNat_ofNat (by omega)]
    omega

/-- A text of ASCII is written with one byte for each character. -/
theorem encode_ascii {s : String} (small : ∀ c ∈ s.toList, c.toNat < 0x80) :
    encode s = s.toList.map fun c => UInt8.ofNat c.toNat := by
  rw [encode_eq]
  generalize s.toList = cs at small
  induction cs with
  | nil => rfl
  | cons c rest ih =>
    rw [List.flatMap_cons, utf8EncodeChar_ascii (small c List.mem_cons_self),
      ih fun d member => small d (List.mem_cons_of_mem _ member)]
    rfl

/-- A text all of whose bytes are ASCII is a text of ASCII. -/
theorem ascii_of_encode {s : String} (low : ∀ b ∈ encode s, b.toNat < 0x80) :
    ∀ c ∈ s.toList, c.toNat < 0x80 := by
  intro c member
  rw [encode_eq] at low
  refine Nat.lt_of_not_le fun large => ?_
  obtain ⟨b, inside, high⟩ := exists_high_byte large
  exact Nat.not_lt.mpr high (low b (List.mem_flatMap.mpr ⟨c, member, inside⟩))

theorem utf8EncodeChar_newline : String.utf8EncodeChar '\n' = [0x0A] := rfl

/-- The byte of the line feed is in no other character. -/
theorem newline_notMem_utf8EncodeChar {c : Char} (other : c ≠ '\n') :
    0x0A ∉ String.utf8EncodeChar c := by
  have value : c.val.toNat ≠ 10 := fun same => other (Char.toNat_inj.mp same)
  have differs : ∀ n < 256, n ≠ 10 → (0x0A : UInt8) ≠ UInt8.ofNat n := by
    intro n small plain same
    have := congrArg UInt8.toNat same
    rw [toNat_ofNat small] at this
    exact plain this.symm
  simp only [String.utf8EncodeChar]
  generalize c.val.toNat = v at value
  split
  · simp only [List.mem_singleton]
    exact differs v (by omega) value
  split
  · simp only [List.mem_cons, List.not_mem_nil, or_false, not_or]
    constructor <;> exact differs _ (by omega) (by omega)
  split
  · simp only [List.mem_cons, List.not_mem_nil, or_false, not_or]
    refine ⟨?_, ?_, ?_⟩ <;> exact differs _ (by omega) (by omega)
  · simp only [List.mem_cons, List.not_mem_nil, or_false, not_or]
    refine ⟨?_, ?_, ?_, ?_⟩ <;> exact differs _ (by omega) (by omega)

end ActionServer.Utf8
