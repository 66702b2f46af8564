import IngestWatch.Proofs.Codec.Overlay

/-!
Documents in either of the two formats, and the values in them. A document that is an object has
members, whose values are documents again. A record with fields that may all be left out is read
from an object as its start overlaid by the members, whichever format the object is written in.
-/

namespace IngestWatch

open Json

/-! ## Objects as texts -/

namespace Json

/-- The members of an object with the keys that stand between the quotes. -/
def named? (members : List (List Char × List Char)) : Option (List (String × List Char)) :=
  members.mapM fun m => (key? m.1).map (·, m.2)

/-- A text that is an object, with its keys and the texts of its values. -/
inductive IsObject : List Char → List (String × List Char) → Prop where
  | mk {before inner after : List Char} {members : List (List Char × List Char)}
      {named : List (String × List Char)} (front : Blank before) (body : Body members inner)
      (back : Blank after) (keys : named? members = some named) :
      IsObject (before ++ ('\x7b' :: (inner ++ ['\x7d']) ++ after)) named

theorem Members.value {members : List (List Char × List Char)} {inner : List Char} :
    Members members inner → ∀ m ∈ members, Value m.2
  | .last _ _ _ _ value _ => List.forall_mem_singleton.mpr value
  | .more _ _ _ _ value _ others => List.forall_mem_cons.mpr ⟨value, others.value⟩

theorem named?_cons {m : List Char × List Char} {members : List (List Char × List Char)}
    {named : List (String × List Char)} (keys : named? (m :: members) = some named) :
    ∃ key others, key? m.1 = some key ∧ named? members = some others ∧
      named = (key, m.2) :: others := by
  rw [named?, List.mapM_cons] at keys
  obtain ⟨first, own, keys⟩ := Option.bind_eq_some_iff.mp keys
  obtain ⟨others, behind, keys⟩ := Option.bind_eq_some_iff.mp keys
  obtain ⟨key, spelled, rfl⟩ := Option.map_eq_some_iff.mp own
  exact ⟨key, others, spelled, behind, (Option.some.inj keys).symm⟩

/-- To name the keys leaves the values as they are. -/
theorem map_snd_of_named? {members : List (List Char × List Char)}
    {named : List (String × List Char)} (keys : named? members = some named) :
    named.map Prod.snd = members.map Prod.snd := by
  induction members generalizing named with
  | nil =>
    obtain rfl := Option.some.inj keys
    rfl
  | cons m members ih =>
    obtain ⟨key, others, -, behind, rfl⟩ := named?_cons keys
    rw [List.map_cons, List.map_cons, ih behind]

/-- Every member of an object has the text of a value. -/
theorem IsObject.value {text : List Char} {named : List (String × List Char)}
    (object : IsObject text named) : ∀ m ∈ named, Value m.2 := by
  obtain ⟨-, body, -, keys⟩ := object
  intro m member
  have inside : m.2 ∈ named.map Prod.snd := List.mem_map.mpr ⟨m, member, rfl⟩
  rw [map_snd_of_named? keys] at inside
  obtain ⟨n, known, same⟩ := List.mem_map.mp inside
  cases body with
  | empty _ => cases known
  | members object => exact same ▸ object.value n known

theorem foldlM_takeMember {σ : Type} (update : σ → String → List Char → Option σ)
    {members : List (List Char × List Char)} {named : List (String × List Char)}
    (keys : named? members = some named) (s : σ) :
    members.foldlM (takeMember update) s = named.foldlM (fun s m => update s m.1 m.2) s := by
  induction members generalizing named s with
  | nil =>
    obtain rfl := Option.some.inj keys
    rfl
  | cons m members ih =>
    obtain ⟨key, others, spelled, behind, rfl⟩ := named?_cons keys
    rw [List.foldlM_cons, List.foldlM_cons, takeMember, spelled]
    exact congrArg _ (funext (ih behind))

end Json

/-! ## Documents -/

/-- A document in one of the formats, or a value in a document. -/
inductive Document where
  | json (text : String)
  | toml (text : String)
  | value (v : Toml)

namespace Document

variable {α β : Type}

/-- What a form reads of a document, if it can. -/
def decode (c : Codec α) : Document → Option α
  | .json text => (c.parse text).toOption
  | .toml text => (c.parseToml text).toOption
  | .value v => (c.ofToml v).toOption

/-- The value of a key in an object, or else a default. -/
def said (members : List (String × Document)) (name : String) (c : Codec α) (default : α) :
    Option α :=
  match members.lookup name with
  | some doc => doc.decode c
  | none => some default

/-- The values of a JSON text. -/
def ofJson (members : List (String × List Char)) : List (String × Document) :=
  members.map fun m => (m.1, .json (String.ofList m.2))

/-- The values of a TOML table. -/
def ofToml (members : List (String × Toml)) : List (String × Document) :=
  members.map fun m => (m.1, .value m.2)

/-- A document that is an object or a table, with its members in the order of the document. -/
inductive Object : Document → List (String × Document) → Prop where
  | json {text : String} {members : List (String × List Char)}
      (object : IsObject text.toList members) : Object (.json text) (ofJson members)
  | toml {text : String} {members : List (String × Toml)}
      (table : Toml.parse text = .ok (.table members)) : Object (.toml text) (ofToml members)
  | value {members : List (String × Toml)} : Object (.value (.table members)) (ofToml members)

theorem decode_json (c : Codec α) (text : String) :
    decode c (.json text) = whole? (c.read usualDepth) text.toList := by
  rw [decode, Codec.parse, toOption_mapError, whole?]

theorem whole?_mapped {scan : List Char → Reading (α × List Char)}
    {scan' : List Char → Reading (β × List Char)} {f : α → β} {text : List Char}
    (read : scan' text = (scan text).map fun (v, rest) => (f v, rest)) :
    whole? scan' text = (whole? scan text).map f := by
  rw [whole?, whole?, read]
  cases scan text with
  | error fault => rfl
  | ok result =>
    obtain ⟨v, rest⟩ := result
    simp only [Except.map, finish, ok_bind]
    split <;> rfl

/-- A form that makes something of what another form reads. -/
theorem decode_mapped {c : Codec α} {d : Codec β} {f : α → β}
    (read : ∀ depth cs, d.read depth cs = (c.read depth cs).map fun (v, rest) => (f v, rest))
    (ofToml : ∀ v, d.ofToml v = (c.ofToml v).map f) (doc : Document) :
    decode d doc = (decode c doc).map f := by
  cases doc with
  | json text =>
    rw [decode_json, decode_json]
    exact whole?_mapped (read usualDepth text.toList)
  | toml text =>
    simp only [decode, Codec.parseToml, toOption_bind, toOption_mapError, ofToml, toOption_map]
    cases (Toml.parse text).toOption <;> rfl
  | value v => rw [decode, decode, ofToml, toOption_map]

end Document

/-! ## Fields of documents -/

namespace Field

variable {ρ α β : Type}

/-- What a field makes of a document, if it can be decoded. -/
def decode (f : Field ρ) (doc : Document) : Option (ρ → ρ) :=
  doc.decode f.codec

theorem decode_always (name : String) (c : Codec α) (get : ρ → α) (put : α → ρ → ρ)
    (doc : Document) : (always name c get put).decode doc = (doc.decode c).map put :=
  Document.decode_mapped (fun _ _ => rfl) (fun _ => rfl) doc

theorem decode_whenSet (name : String) (c : Codec α) (get : ρ → Option α)
    (put : Option α → ρ → ρ) (doc : Document) :
    (whenSet name c get put).decode doc = (doc.decode c.option).map put :=
  Document.decode_mapped (fun _ _ => rfl) (fun _ => rfl) doc

/-- All that a field does is to put a value at its place. -/
def Puts (f : Field ρ) (put : α → ρ → ρ) : Prop :=
  ∀ doc change, f.decode doc = some change → ∃ v, put v = change

theorem puts_of_decode {f : Field ρ} {c : Codec α} {put : α → ρ → ρ}
    (decoded : ∀ doc, f.decode doc = (doc.decode c).map put) : f.Puts put := by
  intro doc change made
  rw [decoded] at made
  obtain ⟨v, -, same⟩ := Option.map_eq_some_iff.mp made
  exact ⟨v, same⟩

theorem puts_always {name : String} {c : Codec α} {get : ρ → α} {put : α → ρ → ρ} :
    (always name c get put).Puts put :=
  puts_of_decode (decode_always name c get put)

theorem puts_whenSet {name : String} {c : Codec α} {get : ρ → Option α}
    {put : Option α → ρ → ρ} : (whenSet name c get put).Puts put :=
  puts_of_decode (decode_whenSet name c get put)

theorem Puts.apart {f g : Field ρ} {putF : α → ρ → ρ} {putG : β → ρ → ρ} (first : f.Puts putF)
    (second : g.Puts putG) (commute : ∀ v w x, putF v (putG w x) = putG w (putF v x)) :
    Record.Apart decode f g := by
  intro doc other a b own others x
  obtain ⟨v, rfl⟩ := first doc a own
  obtain ⟨w, rfl⟩ := second other b others
  exact commute v w x

end Field

/-! ## Records of documents -/

namespace Record

variable {ρ : Type} {r : Record ρ}

/-- A record whose fields may all be left out, each with a place of its own. -/
structure Piecewise (r : Record ρ) (deep : Nat) : Prop where
  lenient : r.strict = false
  distinct : (r.fields.map Field.name).Nodup
  apart : r.fields.Pairwise (Apart Field.decode)
  framed : ∀ f ∈ r.fields, f.codec.Framed deep

theorem takeField_congr {V W : Type} {decode : Field ρ → V → Option (ρ → ρ)}
    {decode' : Field ρ → W → Option (ρ → ρ)} {v : V} {w : W}
    (alike : ∀ f ∈ r.fields, decode f v = decode' f w) (d : Draft ρ) (key : String) :
    r.takeField decode d key v = r.takeField decode' d key w := by
  unfold takeField
  cases found : Field.find? key r.fields with
  | none => rfl
  | some f => simp only [alike f (List.mem_of_find?_eq_some found)]

theorem Apart.symm {V : Type} {decode : Field ρ → V → Option (ρ → ρ)} {f g : Field ρ}
    (apart : Apart decode f g) : Apart decode g f :=
  fun v w a b first second x => (apart w v b a second first x).symm

namespace Piecewise

variable {deep : Nat} (piecewise : r.Piecewise deep)
include piecewise

theorem finish_eq (d : Draft ρ) : r.finish d = .ok d.value := by
  rw [finish, piecewise.lenient]
  split <;> rfl

/-- Members taken one after the other lay the fields over the start. -/
theorem laid_eq {members : List (String × Document)} (once : (members.map Prod.fst).Nodup) :
    (members.foldlM (fun d m => r.takeField Field.decode d m.1 m.2) ⟨r.start, []⟩).map
      Draft.value = r.laid Field.decode members := by
  have symmetric : Std.Symm (Apart (ρ := ρ) Field.decode) := ⟨fun _ _ => Apart.symm⟩
  refine r.foldlM_takeField piecewise.distinct (fun f first g second other => ?_) once
    (d := ⟨r.start, []⟩) (fun _ _ => List.not_mem_nil)
  exact piecewise.apart.forall first second fun same => other (congrArg Field.name same)

omit piecewise in
theorem toOption_takeMembers (members : List (String × Toml)) (d : Draft ρ) :
    (r.takeMembers d members).toOption =
      (Document.ofToml members).foldlM (fun d m => r.takeField Field.decode d m.1 m.2) d := by
  induction members generalizing d with
  | nil => rfl
  | cons m members ih =>
    obtain ⟨key, v⟩ := m
    rw [takeMembers, Document.ofToml, List.map_cons, ← Document.ofToml, List.foldlM_cons,
      takeField]
    cases Field.find? key r.fields with
    | none => exact ih d
    | some f =>
      have own : f.decode (.value v) = (f.ofToml v).toOption := rfl
      simp only [own]
      split
      · rfl
      · rw [toOption_bind]
        cases (f.ofToml v).toOption with
        | none => rfl
        | some change => exact ih (d.put key change)

theorem toOption_ofToml {members : List (String × Toml)}
    (once : ((Document.ofToml members).map Prod.fst).Nodup) :
    (r.ofToml (.table members)).toOption = r.laid Field.decode (Document.ofToml members) := by
  have table : r.ofToml (.table members) = r.takeMembers ⟨r.start, []⟩ members >>= r.finish := rfl
  rw [table, ← piecewise.laid_eq once, toOption_bind, toOption_takeMembers]
  simp only [piecewise.finish_eq]
  exact Option.map_eq_bind.symm

theorem takeAll_eq {members : List (List Char × List Char)} {named : List (String × List Char)}
    (keys : named? members = some named) (once : ((Document.ofJson named).map Prod.fst).Nodup)
    {depth : Nat} (enough : deep ≤ depth) (usual : deep ≤ usualDepth) :
    r.takeAll depth members = r.laid Field.decode (Document.ofJson named) := by
  have alike (v : List Char) : ∀ f ∈ r.fields,
      change? depth f v = f.decode (.json (String.ofList v)) := by
    intro f member
    have read : f.read depth = f.read usualDepth :=
      ((piecewise.framed f member).shallow depth enough).trans
        ((piecewise.framed f member).shallow usualDepth usual).symm
    rw [change?, Field.decode, Document.decode_json, String.toList_ofList, read]
    rfl
  rw [← piecewise.laid_eq once, takeAll, foldlM_takeMember _ keys, Document.ofJson,
    List.foldlM_map]
  simp only [piecewise.finish_eq, takeField_congr (alike _)]
  exact Option.map_eq_bind.symm

omit piecewise in
/-- An object is read as its members are taken, whatever blanks lie around it. -/
theorem read_braces (framed : ∀ f ∈ r.fields, f.codec.Framed deep)
    {before inner after : List Char} {raw : List (List Char × List Char)} (front : Blank before)
    (body : Body raw inner) (back : Blank after) :
    whole? (r.read usualDepth) (before ++ ('\x7b' :: (inner ++ ['\x7d']) ++ after)) =
      r.takeAll 126 raw := by
  -- One level is spent on the braces of the object itself.
  have taken := takes_read_object (fun f member => (framed f member).reads 126) body
  have reads := (r.framed_codec framed).reads usualDepth
  rw [← taken.whole? back]
  exact congrArg (fun reading => (Json.finish reading).toOption) (reads.blanks front _)

/-- A record is read from an object as its start overlaid by the members. -/
theorem decode_eq (enough : deep < usualDepth) {doc : Document}
    {members : List (String × Document)} (object : doc.Object members)
    (once : (members.map Prod.fst).Nodup) : doc.decode r.codec = r.laid Field.decode members := by
  cases object with
  | @json text named object =>
    rw [Document.decode_json]
    generalize text.toList = cs at object
    obtain ⟨front, body, back, keys⟩ := object
    rw [← piecewise.takeAll_eq keys once (Nat.le_of_lt_succ enough) (Nat.le_of_lt enough)]
    exact read_braces piecewise.framed front body back
  | toml table =>
    rw [← piecewise.toOption_ofToml once, Document.decode, Codec.parseToml, table]
    exact toOption_mapError _ _
  | value => exact piecewise.toOption_ofToml once

end Piecewise

/-! ## What a document makes of a record -/

/-- A document is read as a record by laying what it says over the record's defaults. -/
structure Overlays (r : Record ρ) (laidOver : List (String × Document) → Option ρ)
    (doc : Document) (members : List (String × Document)) : Prop where
  /-- The record is its defaults overlaid by the members. -/
  value : doc.decode r.codec = laidOver members
  /-- It is read if and only if each field that is there can be decoded. -/
  accepted : (doc.decode r.codec).isSome ↔
    ∀ f ∈ r.fields, ∀ v, (f.name, v) ∈ members → (f.decode v).isSome
  /-- Neither the order of the keys matters nor what nobody knows. -/
  stable : ∀ {other : Document} {others : List (String × Document)}, other.Object others →
    (others.map Prod.fst).Nodup → (r.known members).Perm (r.known others) →
    other.decode r.codec = doc.decode r.codec

theorem Piecewise.overlays {deep : Nat} (piecewise : r.Piecewise deep) (enough : deep < usualDepth)
    {laidOver : List (String × Document) → Option ρ}
    (spelled : ∀ members, r.laid Field.decode members = laidOver members) {doc : Document}
    {members : List (String × Document)} (object : doc.Object members)
    (once : (members.map Prod.fst).Nodup) : r.Overlays laidOver doc members where
  value := (piecewise.decode_eq enough object once).trans (spelled members)
  accepted := by
    simp only [piecewise.decode_eq enough object once, isSome_laid_iff,
      Keyed.lookup_eq_some_iff_mem once]
  stable other once' same := by
    rw [piecewise.decode_eq enough object once, piecewise.decode_eq enough other once']
    exact (laid_of_perm once once' same).symm

end Record

end IngestWatch
