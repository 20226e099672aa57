import ActionServer.Address.Url
import ActionServer.Proofs.Outcome
import Mathlib.Data.List.DropRight
import Mathlib.Data.List.TakeWhile

/-!
# What follows an authority

An authority that is closed by a slash is read without regard to what follows the slash: neither the
host nor the port can be written there. Tabs and line breaks do not count, so this needs an authority
with something else in it; if there is nothing else, the next segment of the path is in its place.
-/

namespace ActionServer

namespace Url

/-! ### As it is written -/

/-- Characters at which an authority ends. -/
def isBoundary (c : Char) : Bool :=
  c == '/' || c == '?' || c == '#' || c == '\\'

/-- A given text is looked through. -/
theorem forall_not_isBoundary {s : String} (none : s.toList.any isBoundary = false) :
    ∀ c ∈ s.toList, isBoundary c = false :=
  fun c member => Bool.eq_false_iff.mpr fun ends =>
    Bool.eq_false_iff.mp none (List.any_eq_true.mpr ⟨c, member, ends⟩)

/-- What stands before the first colon. -/
def writtenScheme (s : String) : String :=
  String.ofList (s.toList.takeWhile (· != ':'))

/-- What stands between the two slashes behind the first colon and the next boundary. -/
def writtenAuthority (s : String) : String :=
  String.ofList (((s.toList.dropWhile (· != ':')).drop 3).takeWhile fun c => !isBoundary c)

/-- The server that an address leads to: its scheme, host and port. -/
def origin (u : Url) : String × Option String × Option Nat :=
  (u.scheme, u.host, u.port)

/-- Characters that do not count in an address. -/
def isDropped (c : Char) : Bool :=
  c == '\t' || c == '\n' || c == '\r'

/-- An address with a scheme and an authority, and with something behind the slash that closes it. -/
def assemble (scheme authority rest : List Char) : List Char :=
  scheme ++ ':' :: '/' :: '/' :: (authority ++ '/' :: rest)

section

variable {p : Char → Bool} {x : Char} (stops : p x = false) (l r : List Char)

include stops

theorem dropWhile_append_cons : (l ++ x :: r).dropWhile p = l.dropWhile p ++ x :: r := by
  induction l with
  | nil => simp [stops]
  | cons c l ih =>
    rw [List.cons_append, List.dropWhile_cons, List.dropWhile_cons, ih]
    split <;> rfl

theorem takeWhile_append_cons : (l ++ x :: r).takeWhile p = l.takeWhile p := by
  induction l with
  | nil => simp [stops]
  | cons c l ih => rw [List.cons_append, List.takeWhile_cons, List.takeWhile_cons, ih]

omit stops in
theorem head?_append_cons : (l ++ x :: r).head? = some (l.head?.getD x) := by
  cases l <;> rfl

theorem reverse_dropWhile_append_cons :
    ((l ++ x :: r).reverse.dropWhile p).reverse = l ++ x :: (r.reverse.dropWhile p).reverse := by
  rw [List.reverse_append, List.reverse_cons, List.append_assoc, List.singleton_append,
    dropWhile_append_cons stops]
  simp

end

section

variable {s : String} {scheme authority rest : List Char}

theorem bne_colon_of_mem (colonless : ':' ∉ scheme) : ∀ c ∈ scheme, (c != ':') = true := by
  intro c member
  exact bne_iff_ne.mpr fun same => colonless (same ▸ member)

theorem writtenScheme_of_assemble (shape : s.toList = assemble scheme authority rest)
    (colonless : ':' ∉ scheme) : writtenScheme s = String.ofList scheme := by
  rw [writtenScheme, shape, assemble, takeWhile_append_cons (by decide),
    List.takeWhile_eq_self_iff.mpr (bne_colon_of_mem colonless)]

theorem writtenAuthority_of_assemble (shape : s.toList = assemble scheme authority rest)
    (colonless : ':' ∉ scheme) (bare : ∀ c ∈ authority, isBoundary c = false) :
    writtenAuthority s = String.ofList authority := by
  have none : scheme.dropWhile (· != ':') = [] :=
    List.dropWhile_eq_nil_iff.mpr (bne_colon_of_mem colonless)
  have all : ∀ c ∈ authority, (!isBoundary c) = true := fun c member => by rw [bare c member]; rfl
  rw [writtenAuthority, shape, assemble, dropWhile_append_cons (by decide), none, List.nil_append,
    List.drop_succ_cons, List.drop_succ_cons, List.drop_succ_cons, List.drop_zero,
    takeWhile_append_cons (by decide), List.takeWhile_eq_self_iff.mpr all]

example : writtenAuthority "http://user@127.0.0.1:8080/api?at=http://x" = "user@127.0.0.1:8080" := by
  decide +kernel

end

/-! ### Reading -/

/-- Tidying leaves what there is to the authority, but for what does not count. -/
theorem tidy_assemble {scheme : List Char} (colonless : ':' ∉ scheme) (authority : List Char) :
    ∃ front, ':' ∉ front ∧ ∀ rest, ∃ back, tidy (assemble scheme authority rest) =
      assemble front (authority.filter fun c => !isDropped c) back := by
  -- Neither the colon nor the slash is a blank, so only the two ends can lose something.
  have colon : decide (':' ≤ ' ') = false := by decide
  have slash : decide ('/' ≤ ' ') = false := by decide
  refine ⟨(scheme.dropWhile (· ≤ ' ')).filter fun c => !isDropped c, fun member => ?_, fun rest => ?_⟩
  · have inside := (List.mem_filter.mp member).1
    exact colonless ((List.dropWhile_sublist _).mem inside)
  · refine ⟨(rest.reverse.dropWhile (· ≤ ' ')).reverse.filter fun c => !isDropped c, ?_⟩
    have first : (assemble scheme authority rest).dropWhile (· ≤ ' ') =
        (scheme.dropWhile (· ≤ ' ') ++ ':' :: '/' :: '/' :: authority) ++ '/' :: rest := by
      rw [assemble, dropWhile_append_cons colon]
      simp
    rw [tidy, first, reverse_dropWhile_append_cons slash]
    simp [assemble, isDropped]

theorem splitScheme_colon {front : List Char} (colonless : ':' ∉ front) :
    ∃ r : Except UrlFault String, ∀ rest,
      splitScheme (front ++ ':' :: rest) = r.map fun scheme => (scheme, rest) := by
  cases front with
  | nil => exact ⟨.error .relative, fun rest => rfl⟩
  | cons c front =>
    obtain ⟨p, named⟩ : ∃ p : Char → Bool,
        p = fun c => c.isAlphanum || c == '+' || c == '-' || c == '.' := ⟨_, rfl⟩
    have stops : p ':' = false := by
      rw [named]
      decide
    have dropped := dropWhile_append_cons stops (c :: front)
    have taken := takeWhile_append_cons stops (c :: front)
    simp only [List.cons_append] at dropped taken
    simp only [List.cons_append, splitScheme, ← named, dropped, taken]
    cases left : (c :: front).dropWhile p with
    | nil =>
      refine ⟨if !c.isAlpha then .error .relative
        else .ok (String.ofList (((c :: front).takeWhile p).map Char.toLower)), fun rest => ?_⟩
      split <;> rfl
    | cons d more =>
      -- The scheme breaks off before its colon.
      have other : d ≠ ':' := by
        rintro rfl
        have inside : ':' ∈ (c :: front).dropWhile p := left ▸ List.mem_cons_self
        exact colonless ((List.dropWhile_sublist _).mem inside)
      refine ⟨.error .relative, fun rest => ?_⟩
      simp [Except.map, other]

theorem dropUser_slash {k : Kind} {authority : List Char}
    (bare : ∀ c ∈ authority, k.endsAuthority c = false) :
    ∃ r : Except UrlFault (List Char × Bool),
      ∀ rest, dropUser k (authority ++ '/' :: rest) = r.map fun p => (p.1 ++ '/' :: rest, p.2) := by
  have ends : k.endsAuthority '/' = true := by simp [Kind.endsAuthority, Kind.isSlash]
  have all : ∀ c ∈ authority, (!k.endsAuthority c) = true := fun c member => by
    rw [bare c member]
    rfl
  have whole (rest : List Char) :
      ((authority ++ '/' :: rest).takeWhile fun c => !k.endsAuthority c) = authority := by
    rw [takeWhile_append_cons (by rw [ends]; rfl), List.takeWhile_eq_self_iff.mpr all]
  by_cases plain : authority.contains '@'
  · -- The user and the sign behind it are inside the authority.
    have present : authority.reverse.dropWhile (· != '@') ≠ [] := by
      intro none
      have without := List.dropWhile_eq_nil_iff.mp none '@'
        (List.mem_reverse.mpr (List.contains_iff_mem.mp plain))
      exact absurd without (by decide)
    have within : (authority.reverse.dropWhile (· != '@')).tail.reverse.length + 1 ≤
        authority.length := by
      have shorter := (List.dropWhile_sublist (l := authority.reverse) (· != '@')).length_le
      have positive := List.length_pos_of_ne_nil present
      simp only [List.length_reverse, List.length_tail] at shorter ⊢
      omega
    obtain ⟨user, named⟩ : ∃ user, (authority.reverse.dropWhile (· != '@')).tail.reverse = user :=
      ⟨_, rfl⟩
    rw [named] at within
    refine ⟨if user.isEmpty && k.endsAuthority ((authority.drop (user.length + 1)).head?.getD '/')
      then .error .emptyHost
      else .ok (authority.drop (user.length + 1), !user.isEmpty && user != [':']), fun rest => ?_⟩
    simp only [dropUser, whole, plain, named, List.drop_append_of_le_length within,
      head?_append_cons, Option.map_some, Option.getD_some, Bool.not_true, Bool.false_eq_true,
      if_false]
    split_ifs <;> rfl
  · refine ⟨.ok (authority, false), fun rest => ?_⟩
    simp only [dropUser, whole, plain]
    rfl

/-- The host ends at the slash, if not before. -/
theorem splitHost_slash (k : Kind) (bracket : Bool) (place rest : List Char) :
    splitHost k bracket (place ++ '/' :: rest) =
      ((splitHost k bracket place).1, (splitHost k bracket place).2 ++ '/' :: rest) := by
  induction place generalizing bracket with
  | nil => simp [splitHost, Kind.endsAuthority, Kind.isSlash]
  | cons c place ih =>
    simp only [List.cons_append, splitHost, ih]
    split <;> rfl

theorem splitPort_slash (scheme : String) (place : List Char) :
    ∃ r : Except UrlFault (Option Nat × List Char), ∀ rest,
      splitPort scheme (place ++ '/' :: rest) = r.map fun p => (p.1, p.2 ++ '/' :: rest) := by
  have stops : Char.isDigit '/' = false := by decide
  cases place with
  | nil => exact ⟨.ok (none, []), fun rest => rfl⟩
  | cons c cs =>
    by_cases colon : c = ':'
    · subst colon
      simp only [List.cons_append, splitPort, takeWhile_append_cons stops,
        dropWhile_append_cons stops, head?_append_cons, Option.map_some, Option.getD_some]
      generalize cs.takeWhile Char.isDigit = digits
      generalize cs.dropWhile Char.isDigit = left
      generalize digits.foldl (fun n c => 10 * n + (c.toNat - '0'.toNat)) 0 = n
      refine ⟨if n ≥ 65536 then .error .invalidPort
        else if !"/\\?#".toList.contains (left.head?.getD '/') then .error .invalidPort
        else if digits.isEmpty ∨ usualPort? scheme = some n then .ok (none, left)
        else .ok (some n, left), fun rest => ?_⟩
      split_ifs <;> rfl
    · refine ⟨.ok (none, c :: cs), fun rest => ?_⟩
      rw [List.cons_append, splitPort]
      · rfl
      · rintro _ same
        cases same
        exact colon rfl

/-- The host and the port of an address in reading. -/
def Front.place (f : Front) : Option String × Option Nat :=
  (f.host, f.port)

/-- The host and the port are the same whatever stands behind the slash. -/
theorem readAuthority_congr {scheme : String} {authority : List Char}
    (bare : ∀ c ∈ authority, (kindOf scheme).endsAuthority c = false) (rest other : List Char) :
    (readAuthority scheme (authority ++ '/' :: rest)).map Front.place =
      (readAuthority scheme (authority ++ '/' :: other)).map Front.place := by
  obtain ⟨r, dropped⟩ := dropUser_slash bare
  simp only [readAuthority, dropped]
  cases r with
  | error e => rfl
  | ok p =>
    obtain ⟨place, user⟩ := p
    obtain ⟨port, ported⟩ := splitPort_slash scheme (splitHost (kindOf scheme) false place).2
    -- Each step hands on what stands behind the slash, and only the path is made of it.
    simp only [Except.map, bind, Except.bind, splitHost_slash, head?_append_cons, ported]
    split_ifs
    · rfl
    · cases Host.ofName (splitHost (kindOf scheme) false place).1 <;> cases port <;> rfl
    · cases Host.ofOpaque (splitHost (kindOf scheme) false place).1 <;> cases port <;> rfl

theorem exists_parse_iff {s : String} {o : String × Option String × Option Nat} :
    (∃ u, parse s = .ok u ∧ u.origin = o) ↔
      ∃ cs front, splitScheme (tidy s.toList) = .ok (o.1, cs) ∧ readFront o.1 cs = .ok front ∧
        front.place = o.2 := by
  constructor
  · rintro ⟨u, read, rfl⟩
    obtain ⟨⟨scheme, cs⟩, named, read⟩ := eq_ok_of_bind read
    obtain ⟨front, placed, read⟩ := eq_ok_of_bind read
    cases read
    exact ⟨cs, front, named, placed, rfl⟩
  · obtain ⟨scheme, place⟩ := o
    rintro ⟨cs, front, named, placed, rfl⟩
    simp only [parse, named, placed, bind, Except.bind]
    exact ⟨_, rfl, rfl⟩

theorem Kind.endsAuthority_eq_false {c : Char} (inside : isBoundary c = false) (k : Kind) :
    k.endsAuthority c = false := by
  simp only [isBoundary, Bool.or_eq_false_iff] at inside
  simp [endsAuthority, isSlash, inside]

theorem readFront_web {scheme : String} (web : kindOf scheme = .web) {authority : List Char}
    (present : authority ≠ []) (bare : ∀ c ∈ authority, isBoundary c = false) (rest : List Char) :
    readFront scheme ('/' :: '/' :: (authority ++ '/' :: rest)) =
      readAuthority scheme (authority ++ '/' :: rest) := by
  cases authority with
  | nil => exact absurd rfl present
  | cons c more =>
    have slash : Kind.web.isSlash '/' = true := by decide
    have stops : Kind.web.isSlash c = false := by
      have inside := Kind.web.endsAuthority_eq_false (bare c List.mem_cons_self)
      simp only [Kind.endsAuthority, Bool.or_eq_false_iff] at inside
      exact inside.1.1
    simp [readFront, web, slash, stops]

/-- Where the authority has a character that counts, nothing behind it leads to another server. -/
theorem parse_assemble_congr {s t : String} {scheme authority rest other : List Char}
    (shape : s.toList = assemble scheme authority rest)
    (shape' : t.toList = assemble scheme authority other) (colonless : ':' ∉ scheme)
    (bare : ∀ c ∈ authority, isBoundary c = false) (solid : ∃ c ∈ authority, isDropped c = false)
    {u : Url} (read : parse s = .ok u) (web : kindOf u.scheme = .web) :
    ∃ v, parse t = .ok v ∧ v.origin = u.origin := by
  obtain ⟨front, plain, tidied⟩ := tidy_assemble colonless authority
  obtain ⟨r, named⟩ := splitScheme_colon plain
  obtain ⟨back, first⟩ := tidied rest
  obtain ⟨back', second⟩ := tidied other
  have present : (authority.filter fun c => !isDropped c) ≠ [] := by
    obtain ⟨c, member, counts⟩ := solid
    exact List.ne_nil_of_mem (List.mem_filter.mpr ⟨member, by rw [counts]; rfl⟩)
  have inside : ∀ c ∈ authority.filter fun c => !isDropped c, isBoundary c = false :=
    fun c member => bare c (List.mem_filter.mp member).1
  generalize authority.filter (fun c => !isDropped c) = kept at first second present inside
  -- Both addresses have one scheme, and what is left of them differs behind the slash only.
  obtain ⟨cs, f, split, placed, place⟩ := exists_parse_iff.mp ⟨u, read, rfl⟩
  rw [shape, first, assemble, named] at split
  obtain ⟨found, rfl, same⟩ := map_eq_ok_iff.mp split
  obtain ⟨rfl, rfl⟩ := Prod.mk.inj same
  have alike := readAuthority_congr
    (fun c member => (kindOf u.scheme).endsAuthority_eq_false (inside c member)) back back'
  rw [← readFront_web web present inside back, show readFront u.scheme _ = .ok f from placed] at alike
  obtain ⟨f', placed', place'⟩ := map_eq_ok_iff.mp alike.symm
  have split' : splitScheme (tidy t.toList) =
      .ok (u.scheme, '/' :: '/' :: (kept ++ '/' :: back')) := by
    rw [shape', second, assemble, named]
    rfl
  have stated : readFront u.scheme ('/' :: '/' :: (kept ++ '/' :: back')) = .ok f' :=
    (readFront_web web present inside back').trans placed'
  exact exists_parse_iff.mpr ⟨_, f', split', stated, place'.trans place⟩

end Url

end ActionServer
