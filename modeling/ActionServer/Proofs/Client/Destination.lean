import ActionServer.Client.Call
import ActionServer.Proofs.Address.Authority
import ActionServer.Proofs.Text.Affix

/-!
# What a call sends, and where

A request goes out after all tests, with the secret in a header that can hold it. Its address is the
base with the path behind it. A path has to begin with a slash, and the base has no slash at its end,
so the slash of the path, or one in the base, closes the authority of the base: what a script writes
stands behind it. From there only an answer can send the request on.
-/

namespace ActionServer

namespace CallSettings

/-- No request with a property is answered with an address to which it goes on without it. -/
def Holds (fits : OutgoingRequest → Prop) (answer : OutgoingRequest → World → Arrival × World) : Prop :=
  ∀ r w next, fits r → redirected r (answer r w).1 = some next → fits next

/-- All that a call sends has a property, over links that do not send it on to where it has it no more:
how a link answers anything else makes no difference. -/
def SendsOnly (s : CallSettings) (method path : String) (body : Option Json)
    (fits : OutgoingRequest → Prop) : Prop :=
  ∀ answer other : OutgoingRequest → World → Arrival × World,
    Holds fits answer → (∀ r, fits r → answer r = other r) →
      ∀ w, s.request (.up answer) method path body w = s.request (.up other) method path body w

/-- Links that agree on the requests that they hold are not told apart. -/
theorem send_congr {fits : OutgoingRequest → Prop}
    {answer other : OutgoingRequest → World → Arrival × World} (held : Holds fits answer)
    (alike : ∀ r, fits r → answer r = other r) {r : OutgoingRequest} (first : fits r) (left : Nat)
    (w : World) : send answer left r w = send other left r w := by
  induction left generalizing r w with
  | zero => simp only [send, alike r first]
  | succ left ih =>
    -- what comes back is the same, and where it leads to is held again
    simp only [send, ← alike r first]
    cases moved : redirected r (answer r w).1 with
    | none => rfl
    | some next => simp only [ih (held r w next first moved)]

section

variable {s : CallSettings} {method path : String} {body : Option Json}

/-- A request that is sent has passed all tests, and carries the secret if there is one. -/
theorem prepare_eq_ok {r : OutgoingRequest} (sent : s.prepare method path body = .ok r) :
    path.toList.head? = some '/' ∧ Url.parse (s.base ++ path) = .ok r.url ∧
      isSendable r.url = true ∧ s.secret.map Header.ofText? = r.secret.map some := by
  simp only [prepare] at sent
  split at sent
  · cases sent
  rename_i led
  split at sent
  · cases sent
  split at sent
  · cases sent
  rename_i url read
  split at sent
  · cases sent
  split at sent
  · cases sent
  rename_i written
  split at sent
  · cases sent
  rename_i sendable
  cases sent
  refine ⟨by simpa using led, read, by simpa using sendable, ?_⟩
  cases carried : s.secret.map Header.ofText? with
  | none => rfl
  | some value? =>
    cases value? with
    | none => exact absurd carried written
    | some value => rfl

/-- The secret that is sent is what a header can hold of it. -/
theorem secret_of_prepare {secret : String} (known : s.secret = some secret) {r : OutgoingRequest}
    (sent : s.prepare method path body = .ok r) :
    ∃ value, Header.ofText? secret = some value ∧ r.secret = some value := by
  obtain ⟨-, -, -, carried⟩ := prepare_eq_ok sent
  rw [known, Option.map_some] at carried
  obtain ⟨value, sentValue, written⟩ := Option.map_eq_some_iff.mp carried.symm
  exact ⟨value, written.symm, sentValue⟩

theorem sendsOnly_of_prepare {fits : OutgoingRequest → Prop}
    (all : ∀ r, s.prepare method path body = .ok r → fits r) : s.SendsOnly method path body fits := by
  intro answer other held alike w
  cases prepared : s.prepare method path body with
  | error e => simp only [request, prepared]
  | ok r => simp only [request, prepared, send_congr held alike (all r prepared)]

/-- Requests are sent to addresses of the web only. -/
theorem kindOf_of_isSendable {url : Url} (sendable : isSendable url = true) :
    Url.kindOf url.scheme = .web := by
  simp only [isSendable, sendableSchemes, Bool.and_eq_true, List.contains_iff_mem, List.mem_cons,
    List.not_mem_nil, or_false] at sendable
  obtain ⟨http | https, -⟩ := sendable
  · rw [http]
    decide
  · rw [https]
    decide

/-- A path that does not begin with a slash is refused whatever the link. -/
theorem request_of_not_led (unled : path.toList.head? ≠ some '/') :
    ∃ message, ∀ link w,
      s.request link method path body w = (.error (.invalidRequest message), w) := by
  refine ⟨s!"Path must start with '/': {path}", fun link w => ?_⟩
  simp [request, prepare, unled]

end

/-- The base and a path behind it. -/
theorem exists_assemble {scheme authority more path : String}
    (bare : ∀ c ∈ authority.toList, Url.isBoundary c = false) (present : authority ≠ "")
    (led : more = "" ∨ more.toList.head? = some '/') (below : path.toList.head? = some '/')
    (secret : Option String) :
    ∃ rest, ((new (scheme ++ "://" ++ authority ++ more) secret).base ++ path).toList =
      Url.assemble scheme.toList authority.toList rest := by
  have plain : ¬Text.EndsInSlash (scheme ++ "://" ++ authority) := by
    rw [Text.endsInSlash_append_iff present]
    intro last
    exact absurd (bare '/' (List.mem_of_getLast? last)) (by decide)
  -- Trimming the base takes slashes off its path only, whose first one stays if it has others.
  have closed : (Text.trimTrailingSlashes more ++ path).toList.head? = some '/' := by
    obtain ⟨n, whole⟩ := Text.exists_eq_append_slashes more
    by_cases empty : Text.trimTrailingSlashes more = ""
    · rwa [empty, String.empty_append]
    · have chars : (Text.trimTrailingSlashes more).toList ≠ [] := by simpa using empty
      have nonempty : more ≠ "" := by
        rintro rfl
        exact empty rfl
      have first := led.resolve_left nonempty
      rw [whole, String.toList_append, List.head?_append_of_ne_nil _ chars] at first
      rw [String.toList_append, List.head?_append_of_ne_nil _ chars, first]
  obtain ⟨rest, behind⟩ := List.head?_eq_some_iff.mp closed
  refine ⟨rest, ?_⟩
  rw [new, Text.trimTrailingSlashes_append plain, String.append_assoc, String.toList_append, behind]
  simp [Url.assemble]

/-- **Calls stay on the configured server.** Whatever a script asks for, a call is refused and
nothing is sent, or the scheme and the authority of its address are written as in the base, and this
is the address that a request goes to. If the authority has a character that counts, it goes to the
scheme, the host and the port that the base is read to have, and so does all that is sent, unless a
server there sends it on. -/
theorem request_keeps_to_base {base scheme authority more : String}
    (form : base = scheme ++ "://" ++ authority ++ more) (colonless : ':' ∉ scheme.toList)
    (bare : ∀ c ∈ authority.toList, Url.isBoundary c = false) (present : authority ≠ "")
    (led : more = "" ∨ more.toList.head? = some '/') (secret : Option String)
    (method path : String) (body : Option Json) :
    (∃ message, ∀ link w, (new base secret).request link method path body w =
      (.error (.invalidRequest message), w)) ∨
    Url.writtenScheme ((new base secret).base ++ path) = scheme ∧
    Url.writtenAuthority ((new base secret).base ++ path) = authority ∧
    ((new base secret).SendsOnly method path body fun r =>
      Url.parse ((new base secret).base ++ path) = .ok r.url) ∧
    ((∃ c ∈ authority.toList, Url.isDropped c = false) →
      (new base secret).SendsOnly method path body fun r =>
        ∃ root, Url.parse (scheme ++ "://" ++ authority ++ "/") = .ok root ∧
          r.url.origin = root.origin) := by
  subst form
  by_cases below : path.toList.head? = some '/'
  · right
    obtain ⟨rest, shape⟩ := exists_assemble bare present led below secret
    refine ⟨?_, ?_, sendsOnly_of_prepare fun r sent => (prepare_eq_ok sent).2.1,
      fun solid => sendsOnly_of_prepare fun r sent => ?_⟩
    · rw [Url.writtenScheme_of_assemble shape colonless, String.ofList_toList]
    · rw [Url.writtenAuthority_of_assemble shape colonless bare, String.ofList_toList]
    · obtain ⟨-, read, sendable, -⟩ := prepare_eq_ok sent
      have bottom : (scheme ++ "://" ++ authority ++ "/").toList =
          Url.assemble scheme.toList authority.toList [] := by
        simp [Url.assemble]
      obtain ⟨root, top, same⟩ := Url.parse_assemble_congr shape bottom colonless bare solid read
        (kindOf_of_isSendable sendable)
      exact ⟨root, top, same.symm⟩
  · exact .inl (request_of_not_led below)

/-- A path that looks like another authority changes nothing: a request is sent, and links that
differ on other servers only are not told apart. -/
theorem request_keeps_to_base_api :
    (∃ r, (new "http://127.0.0.1:8080/api/" (some "s3cret")).prepare "GET" "//user@elsewhere:1/.."
      none = .ok r ∧ r.url.origin = ("http", some "127.0.0.1", some 8080)) ∧
    ∀ answer w, Holds (fun r => r.url.origin = ("http", some "127.0.0.1", some 8080)) answer →
      (new "http://127.0.0.1:8080/api/" (some "s3cret")).request (.up answer)
          "GET" "//user@elsewhere:1/.." none w =
        (new "http://127.0.0.1:8080/api/" (some "s3cret")).request
          (.up fun r w => if r.url.origin = ("http", some "127.0.0.1", some 8080) then answer r w
            else (.broken, w))
          "GET" "//user@elsewhere:1/.." none w := by
  constructor
  · have sent : ((new "http://127.0.0.1:8080/api/" (some "s3cret")).prepare "GET"
        "//user@elsewhere:1/.." none).toOption.any
          (fun r => r.url.origin = ("http", some "127.0.0.1", some 8080)) = true := by
      decide +kernel
    obtain ⟨r, prepared, there⟩ := exists_ok_of_any sent
    exact ⟨r, prepared, of_decide_eq_true there⟩
  intro answer w held
  have kept := request_keeps_to_base (show "http://127.0.0.1:8080/api/" =
    "http" ++ "://" ++ "127.0.0.1:8080" ++ "/api/" by decide +kernel) (by decide +kernel)
    (Url.forall_not_isBoundary (by decide +kernel)) (by decide +kernel) (.inr (by decide +kernel))
    (some "s3cret") "GET" "//user@elsewhere:1/.." none
  obtain ⟨message, refused⟩ | ⟨-, -, -, only⟩ := kept
  · rw [refused, refused]
  have known : (Url.parse ("http" ++ "://" ++ "127.0.0.1:8080" ++ "/")).toOption.map Url.origin =
      some ("http", some "127.0.0.1", some 8080) := by
    decide +kernel
  have own (r : OutgoingRequest) :
      (∃ root, Url.parse ("http" ++ "://" ++ "127.0.0.1:8080" ++ "/") = .ok root ∧
        r.url.origin = root.origin) ↔ r.url.origin = ("http", some "127.0.0.1", some 8080) := by
    cases top : Url.parse ("http" ++ "://" ++ "127.0.0.1:8080" ++ "/") with
    | error e =>
      rw [top] at known
      cases known
    | ok root =>
      rw [top] at known
      have there : root.origin = ("http", some "127.0.0.1", some 8080) := Option.some.inj known
      simp [there]
  refine only ⟨'1', by decide +kernel, by decide⟩ _ _ ?_ (fun r here => ?_) w
  · exact fun r w next here moved => (own next).mpr (held r w next ((own r).mp here) moved)
  · funext w
    exact (if_pos ((own r).mp here)).symm

/-- The address of another server on the same machine. -/
private def otherServer : Url := ⟨"http", some "127.0.0.1", some 9, "/", none, none⟩

/-- A link to a server that sends all on to another one, which lets in who brings the secret. -/
private def onward (r : OutgoingRequest) (w : World) : Arrival × World :=
  if r.url.port = some 8080 then (.moved 307 [] otherServer, w)
  else (.whole (if r.secret = some (Utf8.encode "s3cret") then 200 else 403) [], w)

private theorem send_onward {r : OutgoingRequest} (port : r.url.port = some 8080)
    (secret : r.secret = some (Utf8.encode "s3cret")) (w : World) :
    send onward redirectLimit r w = (.ok .null, w) := by
  have first : onward r w = (.moved 307 [] otherServer, w) := if_pos port
  have moved : redirected r (onward r w).1 = some { r with url := otherServer } := by
    have usable : isWritable otherServer = true := by decide +kernel
    simp [first, redirected, usable, Status.redirects]
  have second : onward { r with url := otherServer } w = (.whole 200 [], w) := by
    simp [onward, otherServer, secret]
  have sendable : sendableSchemes.contains otherServer.scheme = true := by decide
  rw [redirectLimit, send_of_redirected moved sendable, first,
    send_of_redirected_eq_none (by rw [second]; rfl), second]
  rfl

/-- Of an authority with nothing but a tab nothing is left in reading, and the next segment of the
path is in its place: the secret goes to a server that the base does not name. It goes to another
server as well where the one that the base names sends a request on. -/
theorem request_leaves_base :
    ((':' ∉ "http".toList ∧ (∀ c ∈ "\t".toList, Url.isBoundary c = false) ∧ "\t" ≠ "") ∧
      (Url.parse ("http" ++ "://" ++ "\t" ++ "/")).toOption = none ∧
      ∃ r, (new ("http" ++ "://" ++ "\t" ++ "") (some "s3cret")).prepare "GET" "/127.0.0.1:9/x"
          none = .ok r ∧
        r.url.origin = ("http", some "127.0.0.1", some 9) ∧ r.secret = some (Utf8.encode "s3cret")) ∧
    ∀ w, (new "http://127.0.0.1:8080" (some "s3cret")).request (.up onward) "GET" "/x" none w =
      (.ok .null, w) := by
  constructor
  · have sent : ((new ("http" ++ "://" ++ "\t" ++ "") (some "s3cret")).prepare "GET" "/127.0.0.1:9/x"
        none).toOption.any (fun r => r.url.origin = ("http", some "127.0.0.1", some 9) ∧
          r.secret = some (Utf8.encode "s3cret")) = true := by
      decide +kernel
    obtain ⟨r, prepared, there⟩ := exists_ok_of_any sent
    exact ⟨⟨by decide +kernel, Url.forall_not_isBoundary (by decide +kernel), by decide +kernel⟩,
      by decide +kernel, r, prepared, of_decide_eq_true there⟩
  · intro w
    have sent : ((new "http://127.0.0.1:8080" (some "s3cret")).prepare "GET" "/x" none).toOption.any
        (fun r => r.url.port = some 8080 ∧ r.secret = some (Utf8.encode "s3cret")) = true := by
      decide +kernel
    obtain ⟨r, prepared, there⟩ := exists_ok_of_any sent
    obtain ⟨port, secret⟩ := of_decide_eq_true there
    simp only [request, prepared, send_onward port secret]

end CallSettings

end ActionServer
