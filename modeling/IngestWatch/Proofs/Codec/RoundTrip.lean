import IngestWatch.Proofs.Codec.Types
import IngestWatch.Proofs.Json.Written
import IngestWatch.Proofs.Keyed

/-!
Values that are written and read again. A form gives a value back if every text that stands for
what it writes is read as that value; the forms of single values do so, and a record does so if
the forms of its fields do.
-/

namespace IngestWatch

open Json Document

/-! ## What a written value is read as -/

theorem Document.isValue_of_denotes {v : Json} {text : List Char} (denotes : Denotes v text) :
    IsValue (.json (String.ofList text)) := by
  refine .json ?_
  rw [String.toList_ofList]
  exact denotes.value

theorem Document.plain_of_numeral {x : Json} {n : List Char} (numeral : Numeral x n) :
    plain (.json (String.ofList n)) = some x := by
  rw [plain_json]
  cases numeral with
  | plain number takes => exact any?_number number takes
  | negative _ takes => exact any?_negative takes

theorem Document.plain_of_quoted {s : String} {body : List Char} (quoted : Quoted body)
    (spelled : key? body = some s) :
    plain (.json (String.ofList ('"' :: (body ++ ['"'])))) = some (.str s) := by
  rw [plain_json, any?_quoted quoted, spelled, Option.map_some]

namespace Codec

variable {α β : Type}

/-- A value is given back by every text of what is written for it. -/
structure Restores (c : Codec α) (v : α) : Prop where
  exact : (c.encode v).Exact
  reads : ∀ {text : List Char}, Denotes (c.encode v) text →
    decode c (.json (String.ofList text)) = some v

/-! ## Single values -/

theorem restores_whole {low high n : Int} (wanted : String) (least : minInt ≤ low)
    (most : high ≤ maxInt) (inside : low ≤ n ∧ n ≤ high) : (whole low high wanted).Restores n where
  exact := .int (least.trans inside.1) (inside.2.trans most)
  reads {text} denotes := by
    have value := isValue_of_denotes denotes
    cases denotes with
    | int numeral =>
      rw [decode_whole value, plain_of_numeral numeral, Option.bind_some, between?,
        if_pos inside]

theorem restores_map {c : Codec α} {forth : α → β} {back : β → α} {v : β}
    (restores : c.Restores (back v)) (same : forth (back v) = v) :
    (c.map forth back).Restores v where
  exact := restores.exact
  reads {text} denotes := by
    rw [decode_mapped (c := c) (f := forth) (fun _ _ => rfl) (fun _ => rfl),
      restores.reads denotes, Option.map_some, same]

theorem restores_int64 {n : Int} (inside : -0x8000000000000000 ≤ n ∧ n ≤ 0x7fffffffffffffff) :
    int64.Restores n :=
  restores_whole "i64" (by decide) (by decide) inside

theorem restores_uint64 (n : UInt64) : uint64.Restores n := by
  refine restores_map (restores_whole "u64" (by decide) (by decide) ?_) ?_
  · have bound := n.toNat_lt
    omega
  · rw [Int.toNat_natCast, UInt64.ofNat_toNat]

theorem restores_uint32 (n : UInt32) : uint32.Restores n := by
  refine restores_map (restores_whole "u32" (by decide) (by decide) ?_) ?_
  · have bound := n.toNat_lt
    omega
  · rw [Int.toNat_natCast, UInt32.ofNat_toNat]

theorem restores_text (s : String) : text.Restores s where
  exact := .str s
  reads {text} denotes := by
    have value := isValue_of_denotes denotes
    cases denotes with
    | quoted quoted spelled =>
      rw [decode_text value, plain_of_quoted quoted spelled]
      rfl

theorem restores_choice {choices : List (String × α)} {nameOf : α → String} {v : α}
    (listed : choices.lookup (nameOf v) = some v) : (choice choices nameOf).Restores v where
  exact := .str (nameOf v)
  reads {text} denotes := by
    have value := isValue_of_denotes denotes
    cases denotes with
    | @quoted _ body quoted spelled =>
      have named : (plain (.json (String.ofList ('"' :: (body ++ ['"']))))).bind text? =
          some (nameOf v) := by
        rw [plain_of_quoted quoted spelled]
        rfl
      rw [decode_choice choices nameOf value named, listed]

/-! ## Texts under keys -/

theorem mapM_textMember_of_spelled {members : List (String × String)}
    {named : List (String × List Char)}
    (spelled : List.Forall₂ Spells (members.map fun m => (m.1, .str m.2)) named) :
    (ofJson named).mapM textMember? = some members := by
  induction members generalizing named with
  | nil =>
    cases spelled
    rfl
  | cons m members ih =>
    obtain ⟨key, s⟩ := m
    cases spelled with
    | @cons _ n _ named first others =>
      obtain ⟨k, text⟩ := n
      obtain ⟨rfl, denotes⟩ := first
      have own : textMember? (key, .json (String.ofList text)) = some (key, s) := by
        rw [textMember?, (restores_text s).reads denotes]
        rfl
      have behind := ih others
      rw [ofJson] at behind ⊢
      rw [List.map_cons, List.mapM_cons, own, behind]
      rfl

/-- Texts under keys are given back with their keys in order, however they were written. -/
theorem restores_texts {members : List (String × String)} (sorted : Keyed.Ascending members) :
    texts.Restores members where
  exact := by
    refine .obj fun m member => ?_
    obtain ⟨⟨key, s⟩, -, rfl⟩ := List.mem_map.mp member
    exact .str s
  reads {text} denotes := by
    obtain ⟨named, written, object, order, spelled⟩ := denotes.spelled
    obtain ⟨others, rfl, same⟩ :=
      (congrFun (congrFun (List.eq_map_comp_perm _) written) members).mpr order
    have object : (Document.json (String.ofList text)).Object (ofJson named) := by
      refine .json ?_
      rwa [String.toList_ofList]
    rw [decode_texts object, mapM_textMember_of_spelled spelled, Option.map_some,
      Keyed.ofList_of_perm sorted same]

end Codec

/-! ## Records -/

namespace Record

variable {ρ α : Type} {r : Record ρ} {x : ρ}

/-- What is shown of a record, in the order of its fields. -/
def shown (r : Record ρ) (x : ρ) : List (String × Json) :=
  r.fields.filterMap fun f => (f.show? x).map (f.name, ·)

theorem mem_shown_iff {m : String × Json} :
    m ∈ r.shown x ↔ ∃ f ∈ r.fields, f.show? x = some m.2 ∧ f.name = m.1 := by
  obtain ⟨key, j⟩ := m
  simp [shown, List.mem_filterMap]

/-- Every field is shown at most once. -/
theorem nodup_shown (distinct : (r.fields.map Field.name).Nodup) :
    ((r.shown x).map Prod.fst).Nodup := by
  refine List.pairwise_map.mpr (List.pairwise_filterMap.mpr ?_)
  refine (List.pairwise_map.mp distinct).imp fun other m first n second => ?_
  obtain ⟨j, -, rfl⟩ := Option.map_eq_some_iff.mp first
  obtain ⟨k, -, rfl⟩ := Option.map_eq_some_iff.mp second
  exact other

theorem mem_of_spelled {written : List (String × Json)} {named : List (String × List Char)}
    (spelled : List.Forall₂ Spells written named) {key : String} {j : Json}
    (inside : (key, j) ∈ written) : ∃ text, (key, text) ∈ named ∧ Denotes j text := by
  induction spelled with
  | nil => cases inside
  | @cons w n written named first _ ih =>
    rcases List.mem_cons.mp inside with rfl | later
    · obtain ⟨k, text⟩ := n
      obtain ⟨rfl, denotes⟩ := first
      exact ⟨text, List.mem_cons_self, denotes⟩
    · obtain ⟨text, member, denotes⟩ := ih later
      exact ⟨text, .tail _ member, denotes⟩

theorem keys_of_spelled {written : List (String × Json)} {named : List (String × List Char)}
    (spelled : List.Forall₂ Spells written named) :
    (ofJson named).map Prod.fst = written.map Prod.fst := by
  induction spelled with
  | nil => rfl
  | cons first _ ih =>
    rw [ofJson] at ih ⊢
    rw [List.map_cons, List.map_cons, List.map_cons, ih, ← first.1]

/-- An object carries what a record shows, and nothing else. -/
structure Carries (r : Record ρ) (x : ρ) (members : List (String × Document)) : Prop where
  once : (members.map Prod.fst).Nodup
  shown : ∀ f ∈ r.fields, ∀ j, f.show? x = some j →
    ∃ text, members.lookup f.name = some (.json (String.ofList text)) ∧ Denotes j text
  hidden : ∀ f ∈ r.fields, f.show? x = none → members.lookup f.name = none

theorem carries_of_denotes (distinct : (r.fields.map Field.name).Nodup) {text : List Char}
    (denotes : Denotes (r.encode x) text) :
    ∃ named, IsObject text named ∧ r.Carries x (ofJson named) := by
  obtain ⟨named, written, object, order, spelled⟩ := denotes.spelled
  have same : written.Perm (r.shown x) := order.trans (Keyed.perm_ofList (nodup_shown distinct))
  have keys := keys_of_spelled spelled
  have once : ((ofJson named).map Prod.fst).Nodup := by
    rw [keys]
    exact (same.map Prod.fst).nodup_iff.mpr (nodup_shown distinct)
  refine ⟨named, object, once, fun f known j set => ?_, fun f known unset => ?_⟩
  · have inside : (f.name, j) ∈ written := same.mem_iff.mpr (mem_shown_iff.mpr ⟨f, known, set, rfl⟩)
    obtain ⟨text, member, denotes⟩ := mem_of_spelled spelled inside
    refine ⟨text, (Keyed.lookup_eq_some_iff_mem once).mpr ?_, denotes⟩
    exact List.mem_map.mpr ⟨(f.name, text), member, rfl⟩
  · have silent : f.name ∉ (ofJson named).map Prod.fst := by
      rw [keys, (same.map Prod.fst).mem_iff]
      intro inside
      obtain ⟨m, member, named⟩ := List.mem_map.mp inside
      obtain ⟨g, knownG, set, sameName⟩ := mem_shown_iff.mp member
      -- No two fields have one name, so the field that is shown is the one that is not.
      obtain rfl : g = f := List.inj_on_of_nodup_map distinct knownG known (sameName.trans named)
      rw [unset] at set
      cases set
    refine List.lookup_eq_none_iff.mpr fun m member => bne_iff_ne.mpr fun same => ?_
    exact silent (List.mem_map.mpr ⟨m, member, same.symm⟩)

/-! ## Fields -/

section
variable {members : List (String × Document)} {name : String} {c : Codec α}

/-- A field that is always shown is said as it is. -/
theorem Carries.said_always {get : ρ → α} {put : α → ρ → ρ} (carries : r.Carries x members)
    (known : Field.always name c get put ∈ r.fields) (restores : c.Restores (get x))
    (default : α) : said members name c default = some (get x) := by
  obtain ⟨text, found, denotes⟩ := carries.shown _ known (c.encode (get x)) rfl
  have found : members.lookup name = some (.json (String.ofList text)) := found
  rw [said, found]
  exact restores.reads denotes

/-- A field that may be absent is said as it is if it is set, and not at all otherwise. -/
theorem Carries.said_whenSet {get : ρ → Option α} {put : Option α → ρ → ρ}
    (carries : r.Carries x members) (known : Field.whenSet name c get put ∈ r.fields)
    (restores : ∀ v, get x = some v → c.Restores v) (solid : ∀ v, c.encode v ≠ .null)
    (default : Option α) (unset : default = none) :
    said members name c.option default = some (get x) := by
  subst unset
  cases set : get x with
  | none =>
    have unsaid : members.lookup name = none :=
      carries.hidden _ known (congrArg (Option.map c.encode) set)
    rw [said, unsaid]
  | some v =>
    obtain ⟨text, found, denotes⟩ :=
      carries.shown _ known (c.encode v) (congrArg (Option.map c.encode) set)
    have found : members.lookup name = some (.json (String.ofList text)) := found
    have isSet : ¬ (Document.json (String.ofList text)).IsNull := by
      rw [IsNull, String.toList_ofList]
      exact denotes.ne_null (solid v)
    rw [said, found]
    exact (decode_option c (isValue_of_denotes denotes) isSet).trans
      (congrArg (Option.map some) ((restores v set).reads denotes))

theorem exact_always {get : ρ → α} {put : α → ρ → ρ} (restores : c.Restores (get x)) :
    ∀ j, (Field.always name c get put).show? x = some j → j.Exact := by
  rintro j ⟨⟩
  exact restores.exact

theorem exact_whenSet {get : ρ → Option α} {put : Option α → ρ → ρ}
    (restores : ∀ v, get x = some v → c.Restores v) :
    ∀ j, (Field.whenSet name c get put).show? x = some j → j.Exact := by
  intro j set
  obtain ⟨v, value, rfl⟩ := Option.map_eq_some_iff.mp set
  exact (restores v value).exact

end

/-! ## Records as a whole -/

/-- The same record, with fields that may all be left out. -/
def lenient (r : Record ρ) : Record ρ :=
  { r with strict := false }

section
variable {V : Type} {decode : Field ρ → V → Option (ρ → ρ)}

theorem seen_of_takeField {d d' : Draft ρ} {key : String} {v : V}
    (taken : r.takeField decode d key v = some d') :
    (∀ k ∈ d.seen, k ∈ d'.seen) ∧ (key ∈ r.fields.map Field.name → key ∈ d'.seen) := by
  rw [takeField] at taken
  cases found : Field.find? key r.fields with
  | none =>
    rw [found] at taken
    obtain rfl := Option.some.inj taken
    refine ⟨fun k seen => seen, fun named => ?_⟩
    obtain ⟨f, known, rfl⟩ := List.mem_map.mp named
    have strange := List.find?_eq_none.mp found f known
    simp at strange
  | some f =>
    rw [found] at taken
    dsimp only at taken
    split at taken
    · cases taken
    · obtain ⟨change, -, rfl⟩ := Option.map_eq_some_iff.mp taken
      exact ⟨fun k seen => .tail _ seen, fun _ => List.mem_cons_self⟩

/-- Every known member that was taken has been seen. -/
theorem seen_of_foldlM_takeField {members : List (String × V)} {d d' : Draft ρ}
    (taken : members.foldlM (fun d m => r.takeField decode d m.1 m.2) d = some d') :
    (∀ k ∈ d.seen, k ∈ d'.seen) ∧
      ∀ k ∈ members.map Prod.fst, k ∈ r.fields.map Field.name → k ∈ d'.seen := by
  induction members generalizing d with
  | nil =>
    obtain rfl := Option.some.inj taken
    refine ⟨fun k seen => seen, ?_⟩
    rintro _ ⟨⟩
  | cons m members ih =>
    rw [List.foldlM_cons] at taken
    obtain ⟨next, first, rest⟩ := Option.bind_eq_some_iff.mp taken
    obtain ⟨kept, own⟩ := seen_of_takeField first
    obtain ⟨keptOn, others⟩ := ih rest
    refine ⟨fun k seen => keptOn k (kept k seen), fun k member named => ?_⟩
    rcases List.mem_cons.mp member with rfl | later
    · exact keptOn _ (own named)
    · exact others k later named

end

/-- A record of which every field has been seen is finished. -/
theorem finish_of_seen {d : Draft ρ} (seen : ∀ f ∈ r.fields, f.name ∈ d.seen) :
    r.finish d = .ok d.value := by
  have none : r.fields.find? (fun f => !d.seen.contains f.name) = none := by
    refine List.find?_eq_none.mpr fun f known => ?_
    simp [seen f known]
  rw [finish, none]

/-- Where every field is there, it does not matter whether it has to be. -/
theorem takeAll_of_complete {depth : Nat} {raw : List (List Char × List Char)}
    {named : List (String × List Char)} (keys : named? raw = some named)
    (complete : r.strict = true → ∀ f ∈ r.fields, f.name ∈ named.map Prod.fst) :
    r.takeAll depth raw = r.lenient.takeAll depth raw := by
  have alike : ∀ d, raw.foldlM (takeMember (r.takeField (change? depth))) ⟨r.start, []⟩ = some d →
      r.finish d = r.lenient.finish d := by
    intro d taken
    cases strict : r.strict with
    | false =>
      rw [finish, finish, strict]
      rfl
    | true =>
      rw [foldlM_takeMember _ keys] at taken
      obtain ⟨-, all⟩ := seen_of_foldlM_takeField taken
      have seen : ∀ f ∈ r.fields, f.name ∈ d.seen := fun f known =>
        all f.name (complete strict f known) (List.mem_map.mpr ⟨f, known, rfl⟩)
      rw [finish_of_seen seen, finish_of_seen (r := r.lenient) seen]
  have taken : r.lenient.takeAll depth raw =
      (raw.foldlM (takeMember (r.takeField (change? depth))) ⟨r.start, []⟩).bind fun d =>
        (r.lenient.finish d).toOption := rfl
  rw [taken, takeAll]
  cases made : raw.foldlM (takeMember (r.takeField (change? depth))) ⟨r.start, []⟩ with
  | none => rfl
  | some d =>
    rw [Option.bind_some, Option.bind_some, alike d made]

/-- A record gives its values back if its fields, laid over its start, give back what they say. -/
theorem restores_of_laid {deep : Nat} (piecewise : r.lenient.Piecewise deep)
    (enough : deep < usualDepth) (complete : r.strict = true → ∀ f ∈ r.fields, f.show? x ≠ none)
    (exact : ∀ f ∈ r.fields, ∀ j, f.show? x = some j → j.Exact)
    (laid : ∀ members, r.Carries x members → r.laid Field.decode members = some x) :
    r.codec.Restores x where
  exact := by
    refine .obj fun m member => ?_
    have shown := (Keyed.perm_ofList (nodup_shown piecewise.distinct)).mem_iff.mp member
    obtain ⟨f, known, set, -⟩ := mem_shown_iff.mp shown
    exact exact f known m.2 set
  reads {text} denotes := by
    obtain ⟨named, object, carries⟩ := carries_of_denotes (r := r) piecewise.distinct denotes
    have all : r.strict = true → ∀ f ∈ r.fields, f.name ∈ named.map Prod.fst := by
      intro strict f known
      obtain ⟨j, set⟩ := Option.ne_none_iff_exists'.mp (complete strict f known)
      obtain ⟨text, found, -⟩ := carries.shown f known j set
      obtain ⟨m, member, same⟩ := List.mem_map.mp ((Keyed.lookup_eq_some_iff_mem carries.once).mp found)
      exact List.mem_map.mpr ⟨m, member, congrArg Prod.fst same⟩
    rw [decode_ofList, ← laid _ carries]
    obtain ⟨front, body, back, keys⟩ := object
    have taken := piecewise.takeAll_eq keys carries.once (Nat.le_of_lt_succ enough)
      (Nat.le_of_lt enough)
    rw [← takeAll_of_complete keys all] at taken
    exact (Piecewise.read_braces (r := r) piecewise.framed front body back).trans taken

theorem Piecewise.restores {deep : Nat} (piecewise : r.Piecewise deep) (enough : deep < usualDepth)
    (exact : ∀ f ∈ r.fields, ∀ j, f.show? x = some j → j.Exact)
    (laid : ∀ members, r.Carries x members → r.laid Field.decode members = some x) :
    r.codec.Restores x := by
  have same : r.lenient = r := by
    obtain ⟨title, fields, start, strict⟩ := r
    obtain rfl : strict = false := piecewise.lenient
    rfl
  refine restores_of_laid (same.symm ▸ piecewise) enough (fun strict => ?_) exact laid
  cases strict.symm.trans piecewise.lenient

end Record

end IngestWatch
