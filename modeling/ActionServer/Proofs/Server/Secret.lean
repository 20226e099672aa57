import ActionServer.Proofs.Client.Destination
import ActionServer.Proofs.Text.Utf8
import ActionServer.Server.Loopback
import Mathlib.Data.List.DropRight
import Mathlib.Data.List.TakeWhile

/-!
# The secret on its way

A server and its own client take the secret from the same variable. The client writes it into a
header as it is; on the way the header loses the blanks around it, and the server reads it as text
only if it is visible ASCII. So what arrives is the secret exactly when the secret is of that form
already, which the settings do not ask for.
-/

namespace ActionServer

namespace Header

/-- A text without a space or a tab at either end. -/
def Unpadded (s : String) : Prop :=
  ∀ c, s.toList.head? = some c ∨ s.toList.getLast? = some c → c ≠ ' ' ∧ c ≠ '\t'

theorem isVisible_iff (b : UInt8) :
    isVisible b = true ↔ isAllowed b = true ∧ b.toNat < 0x80 := by
  simp only [isVisible, isAllowed, Bool.or_eq_true, Bool.and_eq_true, decide_eq_true_eq,
    bne_iff_ne, beq_iff_eq, ne_eq, UInt8.le_iff_toNat_le, UInt8.lt_iff_toNat_lt,
    ← UInt8.toNat_inj]
  simp
  omega

private theorem encode_chars {value : List UInt8} (low : ∀ b ∈ value, b.toNat < 0x80) :
    Utf8.encode (String.ofList (value.map fun b => Char.ofNat b.toNat)) = value := by
  have code (b : UInt8) (small : b.toNat < 0x80) : (Char.ofNat b.toNat).toNat = b.toNat := by
    rw [Char.ofNat, dif_pos (.inl (by omega))]
    rfl
  rw [Utf8.encode_ascii, String.toList_ofList, List.map_map]
  · refine (List.map_congr_left fun b member => ?_).trans (List.map_id value)
    simp [code b (low b member)]
  · simp only [String.toList_ofList, List.mem_map]
    rintro c ⟨b, member, rfl⟩
    rw [code b (low b member)]
    exact low b member

/-- A value that is read as a text consists of the bytes of that text, all of them visible. -/
theorem text?_eq_some_iff (value : List UInt8) (s : String) :
    text? value = some s ↔ value = Utf8.encode s ∧ ∀ b ∈ value, isVisible b = true := by
  have back (visible : ∀ b ∈ value, isVisible b = true) :=
    encode_chars fun b member => ((isVisible_iff b).mp (visible b member)).2
  simp only [text?]
  constructor
  · intro read
    split at read
    · rename_i visible
      rw [List.all_eq_true] at visible
      cases read
      exact ⟨(back visible).symm, visible⟩
    · cases read
  · rintro ⟨bytes, visible⟩
    rw [if_pos (List.all_eq_true.mpr visible)]
    exact congrArg some (Utf8.encode_injective ((back visible).trans bytes))

/-- A value arrives as it is when it has no blank at either end. -/
theorem arrive_eq_self_iff (value : List UInt8) :
    arrive value = value ↔
      ∀ b, value.head? = some b ∨ value.getLast? = some b → isSpace b = false := by
  have steps : arrive value = (value.dropWhile isSpace).rdropWhile isSpace := rfl
  constructor
  · intro same
    -- Each of the two steps only shortens, so neither of them does anything.
    have shorter := (List.rdropWhile_prefix isSpace (l := value.dropWhile isSpace)).length_le
    rw [← steps, same] at shorter
    have front := (List.dropWhile_suffix isSpace (l := value)).eq_of_length_le shorter
    rw [steps, front] at same
    rintro b (first | last)
    · obtain ⟨rest, rfl⟩ := List.head?_eq_some_iff.mp first
      exact Bool.eq_false_iff.mpr (List.dropWhile_eq_self_iff.mp front (by simp))
    · have present : value ≠ [] := by rintro rfl; cases last
      rw [List.getLast?_eq_some_getLast present, Option.some.injEq] at last
      rw [← last]
      simpa using List.rdropWhile_eq_self_iff.mp same present
  · intro bare
    have front : value.dropWhile isSpace = value := by
      cases value with
      | nil => rfl
      | cons b rest => simp [bare b (.inl rfl)]
    rw [steps, front, List.rdropWhile_eq_self_iff]
    intro present
    simp [bare _ (.inr (List.getLast?_eq_some_getLast present))]

/-- What a sender may write arrives as the text that it was exactly if that text is ASCII and has no
blanks around it. -/
theorem text?_arrive_iff {s : String} (allowed : ∀ b ∈ Utf8.encode s, isAllowed b = true) :
    text? (arrive (Utf8.encode s)) = some s ↔
      (∀ c ∈ s.toList, c.toNat < 0x80) ∧ Unpadded s := by
  rw [text?_eq_some_iff]
  have space (c : Char) (small : c.toNat < 0x80) :
      isSpace (UInt8.ofNat c.toNat) = false ↔ c ≠ ' ' ∧ c ≠ '\t' := by
    have same (d : Char) (low : d.toNat < 0x80) :
        UInt8.ofNat c.toNat = UInt8.ofNat d.toNat ↔ c = d := by
      rw [← UInt8.toNat_inj, ← Char.toNat_inj, UInt8.toNat_ofNat', UInt8.toNat_ofNat']
      omega
    have blank : (0x20 : UInt8) = UInt8.ofNat ' '.toNat ∧ (0x09 : UInt8) = UInt8.ofNat '\t'.toNat :=
      ⟨rfl, rfl⟩
    rw [isSpace, blank.1, blank.2]
    simp only [Bool.or_eq_false_iff, beq_eq_false_iff_ne, ne_eq]
    rw [same ' ' (by decide), same '\t' (by decide)]
  have bare (small : ∀ c ∈ s.toList, c.toNat < 0x80) :
      arrive (Utf8.encode s) = Utf8.encode s ↔ Unpadded s := by
    rw [arrive_eq_self_iff, Utf8.encode_ascii small]
    have inside (c : Char) (outer : s.toList.head? = some c ∨ s.toList.getLast? = some c) :
        c ∈ s.toList := outer.elim List.mem_of_head? List.mem_of_getLast?
    constructor
    · intro spaceless c outer
      refine (space c (small c (inside c outer))).mp (spaceless _ ?_)
      exact outer.imp (fun first => by simp [first]) (fun last => by simp [last])
    · intro unpadded b outer
      simp only [List.head?_map, List.getLast?_map, Option.map_eq_some_iff] at outer
      obtain ⟨c, ends, rfl⟩ | ⟨c, ends, rfl⟩ := outer
      · exact (space c (small c (inside c (.inl ends)))).mpr (unpadded c (.inl ends))
      · exact (space c (small c (inside c (.inr ends)))).mpr (unpadded c (.inr ends))
  constructor
  · rintro ⟨same, visible⟩
    have small : ∀ c ∈ s.toList, c.toNat < 0x80 := Utf8.ascii_of_encode fun b member =>
      ((isVisible_iff b).mp (visible b (same.symm ▸ member))).2
    exact ⟨small, (bare small).mp same⟩
  · rintro ⟨small, unpadded⟩
    have same := (bare small).mpr unpadded
    refine ⟨same, fun b member => ?_⟩
    rw [same] at member
    refine (isVisible_iff b).mpr ⟨allowed b member, ?_⟩
    rw [Utf8.encode_ascii small, List.mem_map] at member
    obtain ⟨c, inside, rfl⟩ := member
    have := small c inside
    simp
    omega

theorem ofText?_eq_some_iff (s : String) (value : List UInt8) :
    ofText? s = some value ↔
      value = Utf8.encode s ∧ ∀ b ∈ Utf8.encode s, isAllowed b = true := by
  simp only [ofText?, ← List.all_eq_true]
  split
  · rename_i allowed
    simp [allowed, eq_comm (a := value)]
  · rename_i refused
    simp [refused]

end Header

/-- A request is internal when it carries the bytes of a secret that is there. -/
theorem HttpRequest.isInternal_iff (r : HttpRequest) (secret : Option String) :
    r.isInternal secret = true ↔
      ∃ s value, secret = some s ∧ r.header? secretHeader = some value ∧
        Header.text? value = some s := by
  cases secret with
  | none => simp [isInternal]
  | some s =>
    cases carried : r.header? secretHeader with
    | none => simp [isInternal, carried]
    | some value => simp [isInternal, carried]

/-- What the client writes as the secret is what arrives, but for the blanks around it. -/
theorem HttpRequest.secret_ofOutgoing (o : OutgoingRequest) :
    (HttpRequest.ofOutgoing o).header? secretHeader = o.secret.map Header.arrive := by
  have own : (Text.asciiLower secretHeader == secretHeader) = true := by decide +kernel
  have other : (Text.asciiLower "content-type" == secretHeader) = false := by decide +kernel
  simp only [header?, ofOutgoing]
  cases o.secret with
  | some value => simp [own]
  | none => cases o.body <;> simp [other]

/-- The secret of accepted settings is the variable, unless that is blank. -/
theorem ServerSettings.internalSecret_of_accepted {lookup : String → Option String}
    {settings : ServerSettings} (accepted : ofVariables lookup = .ok settings) :
    settings.internalSecret = given lookup "INTERNAL_SECRET" := by
  obtain ⟨port, -, accepted⟩ := eq_ok_of_bind accepted
  obtain ⟨corsOrigins, -, accepted⟩ := eq_ok_of_bind accepted
  obtain ⟨requestTimeoutSecs, -, accepted⟩ := eq_ok_of_bind accepted
  obtain ⟨shutdownTimeoutSecs, -, accepted⟩ := eq_ok_of_bind accepted
  obtain ⟨actions, -, accepted⟩ := eq_ok_of_bind accepted
  cases accepted
  rfl

namespace Server

/-- What decides of a secret whether the server reads it back from a request of its client. -/
private theorem isInternal_iff_of_secret {secret : String} {s : Server}
    (own : s.settings.internalSecret = some secret) {method path : String} {body : Option Json}
    {outgoing : OutgoingRequest}
    (sent : (callSettings s.settings).prepare method path body = .ok outgoing) :
    s.isInternal (.ofOutgoing outgoing) = true ↔
      (∀ c ∈ secret.toList, c.toNat < 0x80) ∧ Header.Unpadded secret := by
  have known : (callSettings s.settings).secret = some secret := own
  obtain ⟨value, written, carried⟩ := CallSettings.secret_of_prepare known sent
  obtain ⟨rfl, allowed⟩ := (Header.ofText?_eq_some_iff secret value).mp written
  rw [← Header.text?_arrive_iff allowed]
  simp [isInternal, HttpRequest.isInternal_iff, HttpRequest.secret_ofOutgoing, own, carried]

/-- **A server knows its own client exactly if the secret survives the way.** Of accepted settings
whose secret is not blank, every request that the client sends is internal to the server if the
secret is ASCII and has no space or tab at its ends; of all others none is. -/
theorem isInternal_ofOutgoing_iff {lookup : String → Option String} {settings : ServerSettings}
    (accepted : ServerSettings.ofVariables lookup = .ok settings) {secret : String}
    (set : lookup "INTERNAL_SECRET" = some secret) (nonblank : Text.isAllBlank secret = false)
    {s : Server} (own : s.settings = settings) {method path : String} {body : Option Json}
    {outgoing : OutgoingRequest}
    (sent : (callSettings settings).prepare method path body = .ok outgoing) :
    s.isInternal (.ofOutgoing outgoing) = true ↔
      (∀ c ∈ secret.toList, c.toNat < 0x80) ∧ Header.Unpadded secret := by
  subst own
  refine isInternal_iff_of_secret ?_ sent
  rw [ServerSettings.internalSecret_of_accepted accepted]
  simp [ServerSettings.given, set, nonblank]

/-- The variables of a server that has nothing but a secret. -/
def secretOnly (secret name : String) : Option String :=
  if name = "INTERNAL_SECRET" then some secret else none

/-- A secret with a tab inside is recognised. -/
theorem isInternal_ofOutgoing_tab :
    ∃ settings outgoing, ServerSettings.ofVariables (secretOnly "s3\tcret") = .ok settings ∧
      (callSettings settings).prepare "post" "/action/audit" (some .null) = .ok outgoing ∧
      ∀ s : Server, s.settings = settings → (s.isInternal (.ofOutgoing outgoing) = true ↔
        (∀ c ∈ "s3\tcret".toList, c.toNat < 0x80) ∧ Header.Unpadded "s3\tcret") := by
  obtain ⟨settings, outgoing, accepted, sent⟩ := exists_ok_of_isSome
    (r := ServerSettings.ofVariables (secretOnly "s3\tcret"))
    (f := fun settings => (callSettings settings).prepare "post" "/action/audit" (some .null))
    (by decide +kernel)
  exact ⟨settings, outgoing, accepted, sent, fun s own =>
    isInternal_ofOutgoing_iff accepted rfl (by decide +kernel) own sent⟩

private theorem refused {secret : String} (nonblank : Text.isAllBlank secret = false)
    (ready : ((ServerSettings.ofVariables (secretOnly secret)).toOption.bind fun settings =>
      ((callSettings settings).prepare "POST" "/action/audit" none).toOption).isSome)
    (altered : ¬((∀ c ∈ secret.toList, c.toNat < 0x80) ∧ Header.Unpadded secret)) :
    ∃ settings outgoing, ServerSettings.ofVariables (secretOnly secret) = .ok settings ∧
      (callSettings settings).prepare "POST" "/action/audit" none = .ok outgoing ∧
      ∀ s : Server, s.settings = settings → s.isInternal (.ofOutgoing outgoing) = false := by
  obtain ⟨settings, outgoing, accepted, sent⟩ := exists_ok_of_isSome ready
  refine ⟨settings, outgoing, accepted, sent, fun s own => ?_⟩
  subst own
  have known : s.settings.internalSecret = some secret := by
    rw [ServerSettings.internalSecret_of_accepted accepted]
    simp [ServerSettings.given, secretOnly, nonblank]
  exact Bool.eq_false_iff.mpr fun internal =>
    altered ((isInternal_iff_of_secret known sent).mp internal)

/-- A server refuses its own client where the secret has blanks around it, and where it is not
ASCII. -/
theorem isInternal_ofOutgoing_altered :
    (∃ settings outgoing, ServerSettings.ofVariables (secretOnly " s3cret ") = .ok settings ∧
      (callSettings settings).prepare "POST" "/action/audit" none = .ok outgoing ∧
      ∀ s : Server, s.settings = settings → s.isInternal (.ofOutgoing outgoing) = false) ∧
    ∃ settings outgoing, ServerSettings.ofVariables (secretOnly "sécret") = .ok settings ∧
      (callSettings settings).prepare "POST" "/action/audit" none = .ok outgoing ∧
      ∀ s : Server, s.settings = settings → s.isInternal (.ofOutgoing outgoing) = false := by
  constructor
  · refine refused (by decide +kernel) (by decide +kernel) fun ⟨_, unpadded⟩ => ?_
    exact (unpadded ' ' (.inl rfl)).1 rfl
  · refine refused (by decide +kernel) (by decide +kernel) fun ⟨small, _⟩ => ?_
    exact absurd (small 'é' (by simp)) (by decide)

end Server

end ActionServer
