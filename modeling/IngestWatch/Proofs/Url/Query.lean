import IngestWatch.Proofs.Http.Gets
import IngestWatch.Proofs.Outcome
import IngestWatch.Proofs.Target.Reference

/-!
What becomes of a query when an address is read and asked for. Where nothing before the query
holds a `?` or a `#`, the reader cuts it off where it was put on; its characters need no coding,
so it reaches the server as it was written.
-/

namespace IngestWatch.Url

open Target (isPlain)

/-! ## The characters of a query -/

/-- The characters of coded pairs: what is unreserved, escapes and what stands between. -/
def isPairChar (c : Char) : Bool :=
  isUnreserved c || c = '%' || c = '=' || c = '&'

theorem ascii_pairChars : ∀ n < 128, isPairChar (Char.ofNat n) = true →
    (Family.web.staysInQuery (Char.ofNat n) && Family.file.staysInQuery (Char.ofNat n)
      && Family.other.staysInQuery (Char.ofNat n) && decide (0x20 < n)
      && isPlain (Char.ofNat n)) = true := by
  decide +kernel

/-- A reader of addresses leaves the characters of coded pairs as they are. -/
theorem pairChar_stays {c : Char} (pair : isPairChar c = true) :
    (∀ f : Family, f.staysInQuery c = true) ∧ 0x20 < c.toNat ∧ isPlain c = true := by
  have small : c.toNat < 128 := by
    have kinds : isUnreserved c = true ∨ c = '%' ∨ c = '=' ∨ c = '&' := by
      simpa [isPairChar, or_assoc] using pair
    rcases kinds with unreserved | rfl | rfl | rfl
    · exact toNat_lt_of_isUnreserved unreserved
    all_goals decide
  have checked := ascii_pairChars c.toNat small (by rwa [Char.ofNat_toNat])
  simp only [Char.ofNat_toNat, Bool.and_eq_true, decide_eq_true_eq] at checked
  obtain ⟨⟨⟨⟨web, file⟩, other⟩, seen⟩, plain⟩ := checked
  refine ⟨fun f => ?_, seen, plain⟩
  cases f
  · exact web
  · exact file
  · exact other

/-- What stays need not be coded. -/
theorem coded_eq_self {stays : Char → Bool} {cs : List Char} (all : ∀ c ∈ cs, stays c = true) :
    coded stays cs = String.ofList cs := by
  have each : cs.flatMap (percentChar stays) = cs.flatMap fun c => [c] :=
    List.flatMap_congr fun c member => if_pos (all c member)
  rw [coded, each, List.flatMap_singleton']

/-! ## Cutting the query off -/

section
variable {front query : List Char}

/-- Nothing is lost of a query without blanks when an address is tidied. -/
theorem tidy_append (front : List Char) (seen : ∀ c ∈ query, 0x20 < c.toNat) :
    ∃ tidied, tidy (front ++ '?' :: query) = tidied ++ '?' :: query ∧
      ∀ c ∈ tidied, c ∈ front := by
  let blank (c : Char) : Bool := c.toNat ≤ 0x20
  have seen' : ∀ c ∈ '?' :: query, blank c = false := by
    intro c member
    rcases List.mem_cons.mp member with rfl | later
    · rfl
    · exact decide_eq_false (Nat.not_le.mpr (seen c later))
  have begun : (front ++ '?' :: query).dropWhile blank =
      front.dropWhile blank ++ '?' :: query := by
    rw [List.dropWhile_append]
    split
    · next empty =>
      have head : ('?' :: query).dropWhile blank = '?' :: query :=
        List.dropWhile_cons_of_neg (by decide)
      rw [head, List.isEmpty_iff.mp empty, List.nil_append]
    · rfl
  have ended : (front.dropWhile blank ++ '?' :: query).rdropWhile blank =
      front.dropWhile blank ++ '?' :: query := by
    rw [List.rdropWhile_eq_self_iff]
    intro some
    rw [List.getLast_append_of_ne_nil _ (List.cons_ne_nil _ _), Bool.not_eq_true]
    exact seen' _ (List.getLast_mem _)
  have kept : ('?' :: query).filter (fun c => c ≠ '\t' && c ≠ '\n' && c ≠ '\r') = '?' :: query := by
    refine List.filter_eq_self.mpr fun c member => ?_
    have other {d : Char} (control : blank d = true) : c ≠ d := by
      rintro rfl
      rw [seen' c member] at control
      cases control
    simp [other (d := '\t') rfl, other (d := '\n') rfl, other (d := '\r') rfl]
  refine ⟨(front.dropWhile blank).filter fun c => c ≠ '\t' && c ≠ '\n' && c ≠ '\r', ?_, ?_⟩
  · change ((front ++ '?' :: query).dropWhile blank |>.rdropWhile blank).filter _ = _
    rw [begun, ended, List.filter_append, kept]
  · intro c member
    exact (List.dropWhile_suffix blank).subset (List.mem_filter.mp member).1

def isSchemeChar (c : Char) : Bool :=
  c.isAlphanum || c = '+' || c = '-' || c = '.'

/-- A colon ends the scheme. -/
theorem dropWhile_of_readScheme {cs rest : List Char} {scheme : String}
    (found : readScheme cs = some (scheme, rest)) : cs.dropWhile isSchemeChar = ':' :: rest := by
  have left : cs.drop (cs.takeWhile isSchemeChar).length = cs.dropWhile isSchemeChar :=
    calc cs.drop (cs.takeWhile isSchemeChar).length
        = (cs.takeWhile isSchemeChar ++ cs.dropWhile isSchemeChar).drop
            (cs.takeWhile isSchemeChar).length := by rw [List.takeWhile_append_dropWhile]
      _ = cs.dropWhile isSchemeChar := List.drop_left
  unfold readScheme at found
  dsimp only at found
  split at found
  · next behind _ cut =>
    have cut : cs.drop (cs.takeWhile isSchemeChar).length = ':' :: behind := cut
    split at found
    · rw [← left, cut, (Prod.mk.inj (Option.some.inj found)).2]
    · cases found
  · cases found

/-- A scheme ends before the query. -/
theorem readScheme_append {scheme : String} {rest : List Char}
    (found : readScheme (front ++ '?' :: query) = some (scheme, rest)) :
    ∃ behind, rest = behind ++ '?' :: query ∧ ∀ c ∈ behind, c ∈ front := by
  have colon := dropWhile_of_readScheme found
  have mark : ('?' :: query).dropWhile isSchemeChar = '?' :: query :=
    List.dropWhile_cons_of_neg (by decide)
  rw [List.dropWhile_append, mark] at colon
  split at colon
  · cases (List.cons.inj colon).1
  · cases left : front.dropWhile isSchemeChar with
    | nil => simp_all
    | cons c behind =>
      rw [left, List.cons_append, List.cons.injEq] at colon
      have inside : ∀ d ∈ c :: behind, d ∈ front := fun d member =>
        (List.dropWhile_suffix isSchemeChar).subset (left ▸ member)
      exact ⟨behind, colon.2.symm, fun d member => inside d (.tail _ member)⟩

/-- The query of an address is what stands behind the first `?`, if no `#` comes before. -/
theorem query_of_parse {address : String} {u : Url}
    (made : address.toList = front ++ '?' :: query) (plain : ∀ c ∈ front, isPlain c = true)
    (pairs : ∀ c ∈ query, isPairChar c = true) (parsed : Url.parse address = .ok u) :
    u.query = some (String.ofList query) ∧ u.fragment = none := by
  obtain ⟨tidied, whole, inside⟩ :=
    tidy_append front fun c member => (pairChar_stays (pairs c member)).2.1
  unfold Url.parse at parsed
  rw [made, whole] at parsed
  cases found : readScheme (tidied ++ '?' :: query) with
  | none => simp [found] at parsed
  | some scheme =>
    obtain ⟨scheme, rest⟩ := scheme
    obtain ⟨behind, rfl, within⟩ := readScheme_append found
    have before : ∀ c ∈ behind, isPlain c = true := fun c member =>
      plain c (inside c (within c member))
    have noFragment : cutMarked '#' (behind ++ '?' :: query) = (behind ++ '?' :: query, none) := by
      refine Target.cut_of_not_mem fun member => ?_
      rcases List.mem_append.mp member with first | second
      · exact absurd (before _ first) (by decide)
      · rcases List.mem_cons.mp second with mark | later
        · exact absurd mark (by decide)
        · exact absurd (pairChar_stays (pairs _ later)).2.2 (by decide)
    have cut : cutMarked '?' (behind ++ '?' :: query) = (behind, some query) :=
      Target.cut_append (fun member => absurd (before _ member) (by decide)) query
    simp only [found, noFragment, cut] at parsed
    obtain ⟨front, -, value⟩ := bind_eq_ok.mp parsed
    obtain rfl := Except.ok.inj value
    refine ⟨?_, rfl⟩
    rw [Option.map_some, coded_eq_self fun c member => (pairChar_stays (pairs c member)).1 _]

end

/-! ## The path -/

/-- What holds of the parts of a path, and of an empty one, holds however dots are followed. -/
theorem Dots.forall_follow {d : Dots} {P : String → Prop} (empty : P "")
    (leave : ∀ done : List String, (∀ p ∈ done, P p) → ∀ p ∈ d.leave done, P p)
    (enter : ∀ (done : List String) (part : String), (∀ p ∈ done, P p) → P part →
      ∀ p ∈ d.enter done part, P p)
    {done parts : List String} (before : ∀ p ∈ done, P p) (all : ∀ p ∈ parts, P p) :
    ∀ p ∈ d.follow done parts, P p := by
  induction parts generalizing done with
  | nil => exact before
  | cons part rest ih =>
    obtain ⟨first, others⟩ := List.forall_mem_cons.mp all
    have here : ∀ p ∈ (if d.isUp part then d.leave done else done), P p := by
      split
      · exact leave done before
      · exact before
    rw [follow]
    split
    · split
      · intro p member
        rcases List.mem_append.mp member with inside | last
        · exact here p inside
        · rwa [List.mem_singleton.mp last]
      · exact ih here others
    · exact ih (enter done part before first) others

/-- What is coded for a path holds neither mark. -/
theorem isPlain_coded (cs : List Char) :
    ∀ c ∈ (coded staysInPath cs).toList, isPlain c = true := by
  intro c member
  rw [coded, String.toList_ofList] at member
  obtain ⟨d, -, inside⟩ := List.mem_flatMap.mp member
  rw [percentChar] at inside
  split at inside
  · next stays =>
    obtain rfl := List.mem_singleton.mp inside
    have marks : c ≠ '?' ∧ c ≠ '#' := by
      constructor <;> rintro rfl <;> exact absurd stays (by decide)
    simp [isPlain, marks]
  · obtain ⟨b, -, digit⟩ := List.mem_flatMap.mp inside
    have escape := coded_percentByte b
    have query : c ≠ '?' := fun same =>
      escape.not_mem (c := '?') (by decide) (by decide) (same ▸ digit)
    have fragment : c ≠ '#' := fun same =>
      escape.not_mem (c := '#') (by decide) (by decide) (same ▸ digit)
    simp [isPlain, query, fragment]

theorem isPlain_readPath (cs : List Char) :
    ∀ part ∈ Family.web.readPath cs, ∀ c ∈ part.toList, isPlain c = true := by
  refine Dots.forall_follow (by simp) ?_ ?_ (by simp) ?_
  · intro done before p member
    refine before p ?_
    simp only [Family.dots] at member
    split at member
    · exact member
    · exact List.mem_of_mem_dropLast member
  · intro done part before first p member
    have last : p ∈ done ++ [part] := by simpa [Family.dots, Family.enter] using member
    rcases List.mem_append.mp last with inside | same
    · exact before p inside
    · rwa [List.mem_singleton.mp same]
  · intro part member
    obtain ⟨piece, -, rfl⟩ := List.mem_map.mp member
    exact isPlain_coded piece

theorem readPath_of_readFront {scheme : String} {more : Bool} {cs : List Char}
    {authority : Option Authority} {path : Path} (web : Family.ofScheme scheme = .web)
    (front : readFront scheme more cs = .ok (authority, path)) :
    ∃ behind, path = .parts (Family.web.readPath behind) := by
  unfold readFront readBehindSlashes at front
  simp only [web] at front
  obtain ⟨_, -, value⟩ := bind_eq_ok.mp front
  exact ⟨_, (Prod.mk.inj (Except.ok.inj value)).2.symm⟩

/-- The path of an address that a server can be asked for holds neither mark. -/
theorem isPlain_path_of_parse {address : String} {u : Url} (parsed : Url.parse address = .ok u)
    (http : Http.isHttp u.scheme = true) : ∀ c ∈ u.path.text.toList, isPlain c = true := by
  unfold Url.parse at parsed
  cases found : readScheme (tidy address.toList) with
  | none => simp [found] at parsed
  | some scheme =>
    obtain ⟨scheme, rest⟩ := scheme
    simp only [found] at parsed
    obtain ⟨⟨authority, path⟩, front, value⟩ := bind_eq_ok.mp parsed
    obtain rfl := Except.ok.inj value
    have web : Family.ofScheme scheme = .web := by
      have named : scheme = "http" ∨ scheme = "https" := by simpa [Http.isHttp] using http
      rcases named with rfl | rfl <;> decide
    obtain ⟨behind, rfl⟩ := readPath_of_readFront web front
    intro c member
    rw [Path.text, String.toList_join, List.mem_flatMap] at member
    obtain ⟨_, written, inside⟩ := member
    obtain ⟨part, named, rfl⟩ := List.mem_map.mp written
    rw [String.toList_append, List.mem_append] at inside
    rcases inside with slash | within
    · obtain rfl : c = '/' := by simpa using slash
      decide
    · exact isPlain_readPath behind part named c within

end IngestWatch.Url

namespace IngestWatch.Http

/-! ## What the server is asked -/

theorem query_withoutCredentials (u : Url) :
    (withoutCredentials u).query = u.query ∧ (withoutCredentials u).path = u.path ∧
      (withoutCredentials u).scheme = u.scheme := by
  unfold withoutCredentials
  split
  · exact ⟨rfl, rfl, rfl⟩
  · split
    · split <;> exact ⟨rfl, rfl, rfl⟩
    · exact ⟨rfl, rfl, rfl⟩

/-- What a GET asks first is what its address was read as, less the credentials. -/
theorem parse_of_opening {address : String} {u : Url} (asked : opening? address = some u) :
    ∃ v, Url.parse address = .ok v ∧ u = withoutCredentials v ∧ isRequestable u = true := by
  unfold opening? at asked
  cases parsed : Url.parse address with
  | error fault => simp [parsed] at asked
  | ok v =>
    simp only [parsed] at asked
    split at asked
    · cases asked
    · split at asked
      · next requestable =>
        obtain rfl := Option.some.inj asked
        exact ⟨v, rfl, rfl, requestable⟩
      · cases asked

theorem isPairChar_of_mem_pairs {pairs : List (String × String)}
    (names : ∀ p ∈ pairs, p.1.toList.all Url.isPairChar = true) :
    ∀ c ∈ ['&'].intercalate (pairs.map Target.pairChars), Url.isPairChar c = true := by
  intro c member
  by_contra other
  refine Target.not_mem_intercalate (c := c) ?_ ?_ member
  · intro between
    rw [List.mem_singleton.mp between] at other
    exact other (by decide)
  · intro q within inside
    obtain ⟨p, listed, rfl⟩ := List.mem_map.mp within
    rcases List.mem_append.mp inside with name | value
    · exact other (List.all_eq_true.mp (names p listed) c name)
    · rcases List.mem_cons.mp value with rfl | value
      · exact other (by decide)
      · rcases (Url.coded_encodeValue p.2).isUnreserved_or_mark c value with plain | rfl
        · exact other (by simp [Url.isPairChar, plain])
        · exact other (by decide)

/-- Pairs that are put behind an address without `?` and `#` are what the server is asked. -/
theorem pairs_of_opening {address : String} {front : List Char} {pairs : List (String × String)}
    {u : Url} (asked : opening? address = some u)
    (made : address.toList = front ++ '?' :: ['&'].intercalate (pairs.map Target.pairChars))
    (plain : ∀ c ∈ front, Target.isPlain c = true) (some : pairs ≠ [])
    (names : ∀ p ∈ pairs, Target.IsName p.1 ∧ p.1.toList.all Url.isPairChar = true) :
    (Target.read (Request.opening u).target).pairs = .some pairs := by
  obtain ⟨v, parsed, rfl, requestable⟩ := parse_of_opening asked
  obtain ⟨query, path, scheme⟩ := query_withoutCredentials v
  have written := isPairChar_of_mem_pairs fun p member => (names p member).2
  have kept := (Url.query_of_parse made plain written parsed).1
  have http : isHttp v.scheme = true := by
    rw [isRequestable, Bool.and_eq_true, Bool.and_eq_true, scheme] at requestable
    exact requestable.1.1
  have before := Url.isPlain_path_of_parse parsed http
  let sent : String := if v.path.text.isEmpty then "/" else v.path.text
  have marks : '?' ∉ sent.toList ∧ '#' ∉ sent.toList := by
    have each : ∀ c ∈ sent.toList, Target.isPlain c = true := by
      intro c member
      simp only [sent] at member
      split at member
      · obtain rfl : c = '/' := by simpa using member
        decide
      · exact before c member
    exact ⟨fun member => absurd (each _ member) (by decide),
      fun member => absurd (each _ member) (by decide)⟩
  have target : (Request.opening (withoutCredentials v)).target.toList =
      sent.toList ++ '?' :: ['&'].intercalate (pairs.map Target.pairChars) := by
    have whole : (Request.opening (withoutCredentials v)).target =
        sent ++ Url.marked "?" v.query := by
      rw [← query]
      simp only [Request.opening, Request.ofReference, Url.Reference.target, Url.Reference.ofUrl,
        path, sent]
    simp [whole, kept, Url.marked]
  have noFragment : ∀ p ∈ pairs, Target.IsName p.1 ∧ '#' ∉ p.1.toList := fun p member =>
    ⟨(names p member).1, fun mark =>
      absurd (List.all_eq_true.mp (names p member).2 _ mark) (by decide)⟩
  rw [Target.read_of_pairs target marks some noFragment]

/-! ## The requests of a GET -/

namespace Network

/-- A conversation only adds requests. -/
theorem requests_prefix_converse {Result : Type} (work : Conversation Result) (n : Network) :
    n.requests <+: (n.converse work).2.requests := by
  induction work generalizing n with
  | done result => exact List.prefix_refl _
  | ask request next ih =>
    have one : n.requests <+: (ask request n).2.requests := by
      unfold ask
      split
      · exact List.prefix_refl _
      · dsimp only
        split <;> exact List.prefix_append _ _
    exact one.trans (ih _ _)

/-- A GET of an address of the server asks for it first, and only an answer that sends it on
makes it ask for more. -/
theorem requests_get {n : Network} {address : String} {u : Url}
    (opens : n.opening? address = some u) (timeout : Option Nat) :
    ∃ followed, (n.converse (get timeout address)).2.requests =
        n.requests ++ (Request.opening u).target :: followed ∧
      (n.nextAnswer.IsDirect → followed = []) := by
  have direct : n.nextAnswer.IsDirect → n.converse (get timeout address) =
      (_, n.asked (Request.opening u).target) := converse_get_of_direct opens
  rw [opening?, Option.filter_eq_some_iff, Bool.and_eq_true, Bool.not_eq_true',
    decide_eq_true_eq] at opens
  obtain ⟨opens, plain, here⟩ := opens
  have first : ask (Request.ofReference (.ofUrl u)) n =
      (n.nextAnswer, n.asked (Request.opening u).target) := ask_of_place plain here
  obtain ⟨next, begun⟩ : ∃ next, get timeout address =
      .ask (.ofReference (.ofUrl u)) next := ⟨_, getBy_of_opening opens Response.text? timeout⟩
  have rest : n.converse (get timeout address) =
      (n.asked (Request.opening u).target).converse (next n.nextAnswer) := by
    rw [begun, converse, Dialogue.run, first]
    rfl
  obtain ⟨followed, more⟩ := requests_prefix_converse (next n.nextAnswer)
    (n.asked (Request.opening u).target)
  refine ⟨followed, ?_, fun settled => ?_⟩
  · rw [rest, ← more, asked, List.append_assoc, List.singleton_append]
  · have one := congrArg (·.2.requests) (direct settled)
    simp only [rest, ← more] at one
    exact List.append_right_eq_self.mp one

end Network

end IngestWatch.Http
