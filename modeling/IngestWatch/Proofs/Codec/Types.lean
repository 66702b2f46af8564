import IngestWatch.Proofs.Codec.Document
import IngestWatch.Proofs.Json.Plain

/-!
What the forms of single values take. A value of a document stands for plain data, whatever it is
read as; each form takes the data of its own type and nothing else: texts where a text is wanted,
whole numbers within the bounds where a number is wanted, and an object of nothing but texts where
texts under keys are wanted.
-/

namespace IngestWatch

open Json

namespace Document

variable {α : Type}

/-- The plain data that a document stands for. -/
def plain (doc : Document) : Option Json :=
  doc.decode .json

/-- A value as it stands in a document, without blanks around it. -/
inductive IsValue : Document → Prop where
  | json {text : String} (value : Value text.toList) : IsValue (.json text)
  | value {v : Toml} : IsValue (.value v)

theorem plain_json (v : List Char) : plain (.json (String.ofList v)) = any? v := by
  rw [plain, decode_json, String.toList_ofList]
  rfl

theorem decode_ofList (c : Codec α) (v : List Char) :
    decode c (.json (String.ofList v)) = whole? (c.read usualDepth) v := by
  rw [decode_json, String.toList_ofList]

/-- A text is wanted: nothing but a text is taken. -/
theorem decode_text {doc : Document} (value : doc.IsValue) :
    doc.decode .text = doc.plain.bind text? := by
  cases value with
  | @json text value =>
    obtain ⟨v, rfl⟩ : ∃ v, text = String.ofList v := ⟨text.toList, String.ofList_toList.symm⟩
    rw [String.toList_ofList] at value
    rw [plain_json, decode_ofList]
    cases value with
    | word known =>
      simp only [List.mem_cons, List.not_mem_nil, or_false] at known
      rcases known with rfl | rfl | rfl <;> rfl
    | number number =>
      obtain ⟨x, takes⟩ := takes_scanNumber number false
      rw [any?_number number takes, text?_of_takes_number takes]
      obtain ⟨more, rfl | rfl | rfl | rfl | rfl | rfl | rfl | rfl | rfl | rfl⟩ := number.starts
      all_goals rfl
    | negative number =>
      obtain ⟨x, takes⟩ := takes_scanNumber number true
      rw [any?_negative takes, text?_of_takes_number takes]
      rfl
    | quoted quoted =>
      rw [any?_quoted quoted, (Codec.takes_text quoted usualDepth).alone]
      cases key? _ <;> rfl
    | emptyList _ | list _ =>
      rcases any?_list _ with none | ⟨xs, some⟩
      · rw [none]; rfl
      · rw [some]; rfl
    | emptyObject _ | object _ =>
      rcases any?_object _ with none | ⟨xs, some⟩
      · rw [none]; rfl
      · rw [some]; rfl
  | @value v => 
    cases v with
    | real x => cases x <;> rfl
    | _ => rfl

/-- A whole number is wanted: nothing but one within the bounds is taken. -/
theorem decode_whole {doc : Document} (value : doc.IsValue) (low high : Int) (wanted : String) :
    doc.decode (.whole low high wanted) = doc.plain.bind (between? low high) := by
  have within (n : Json) : Codec.within? low high wanted n = between? low high n := by
    unfold Codec.within?
    cases n with
    | int n =>
      simp only [Found.ofNumber, Codec.whole?, between?]
      split <;> rfl
    | _ => rfl
  cases value with
  | @json text value =>
    obtain ⟨v, rfl⟩ : ∃ v, text = String.ofList v := ⟨text.toList, String.ofList_toList.symm⟩
    rw [String.toList_ofList] at value
    rw [plain_json, decode_ofList]
    cases value with
    | word known =>
      simp only [List.mem_cons, List.not_mem_nil, or_false] at known
      rcases known with rfl | rfl | rfl <;> rfl
    | number number =>
      obtain ⟨x, takes⟩ := takes_scanNumber number false
      rw [any?_number number takes, (Codec.takes_whole usualDepth number takes).alone]
      exact congrArg x.bind (funext within)
    | negative number =>
      obtain ⟨x, takes⟩ := takes_scanNumber number true
      rw [any?_negative takes, (Codec.takes_whole_negative usualDepth takes).alone]
      exact congrArg x.bind (funext within)
    | @quoted body quoted =>
      rw [any?_quoted quoted]
      cases key? body <;> rfl
    | emptyList _ | list _ =>
      rcases any?_list _ with none | ⟨xs, some⟩
      · rw [none]; rfl
      · rw [some]; rfl
    | emptyObject _ | object _ =>
      rcases any?_object _ with none | ⟨xs, some⟩
      · rw [none]; rfl
      · rw [some]; rfl
  | @value v =>
    cases v with
    | int n => exact within (.int n)
    | real x => cases x <;> rfl
    | _ => rfl

theorem decode_uint64 {doc : Document} (value : doc.IsValue) :
    doc.decode .uint64 =
      (doc.plain.bind (between? 0 0xffffffffffffffff)).map fun n => UInt64.ofNat n.toNat := by
  rw [← decode_whole value 0 0xffffffffffffffff "u64"]
  exact decode_mapped (fun _ _ => rfl) (fun _ => rfl) doc

theorem decode_uint32 {doc : Document} (value : doc.IsValue) :
    doc.decode .uint32 =
      (doc.plain.bind (between? 0 0xffffffff)).map fun n => UInt32.ofNat n.toNat := by
  rw [← decode_whole value 0 0xffffffff "u32"]
  exact decode_mapped (fun _ _ => rfl) (fun _ => rfl) doc

/-- The one value that JSON has for nothing. -/
def IsNull : Document → Prop
  | .json text => text.toList = ['n', 'u', 'l', 'l']
  | _ => False

theorem decode_option_null (c : Codec α) {doc : Document} (null : doc.IsNull) :
    doc.decode c.option = some none := by
  cases doc with
  | json text =>
    have null : text.toList = ['n', 'u', 'l', 'l'] := null
    rw [decode_json, null]
    rfl
  | toml _ | value _ => cases null

theorem decode_option (c : Codec α) {doc : Document} (value : doc.IsValue) (set : ¬ doc.IsNull) :
    doc.decode c.option = (doc.decode c).map some := by
  cases value with
  | @json text value =>
    have read := Codec.read_option c usualDepth value set []
    rw [List.append_nil] at read
    rw [decode_json, decode_json]
    exact whole?_mapped read
  | @value v => exact toOption_map (c.ofToml v) some

/-- The choice that a text names. -/
theorem decode_choice (choices : List (String × α)) (nameOf : α → String) {doc : Document}
    (value : doc.IsValue) {name : String} (named : doc.plain.bind text? = some name) :
    doc.decode (.choice choices nameOf) = choices.lookup name := by
  have chosen : (Codec.choice? choices name).toOption = choices.lookup name := by
    unfold Codec.choice?
    cases choices.lookup name <;> rfl
  rw [← decode_text value] at named
  cases value with
  | @json text value =>
    obtain ⟨v, rfl⟩ : ∃ v, text = String.ofList v := ⟨text.toList, String.ofList_toList.symm⟩
    rw [String.toList_ofList] at value
    rw [decode_ofList] at named ⊢
    cases value with
    | word known =>
      simp only [List.mem_cons, List.not_mem_nil, or_false] at known
      rcases known with rfl | rfl | rfl <;> cases named
    | number number =>
      obtain ⟨more, rfl | rfl | rfl | rfl | rfl | rfl | rfl | rfl | rfl | rfl⟩ := number.starts
      all_goals cases named
    | quoted quoted =>
      rw [(Codec.takes_text quoted usualDepth).alone] at named
      rw [(Codec.takes_choice choices nameOf quoted usualDepth).alone, Codec.named?, named,
        Option.bind_some, chosen]
    | _ => cases named
  | @value v =>
    cases v with
    | str s =>
      obtain rfl := Option.some.inj named
      exact chosen
    | _ => cases named

/-- A member whose value is a text. -/
def textMember? (m : String × Document) : Option (String × String) :=
  (m.2.decode .text).map (m.1, ·)

theorem ofList_eq : Keyed.ofList = List.foldl (fun sorted (m : String × String) =>
    Keyed.insert m.1 m.2 sorted) [] := rfl

theorem decode_texts_value (members : List (String × Toml)) :
    decode .texts (.value (.table members)) =
      ((ofToml members).mapM textMember?).map Keyed.ofList := by
  have step (texts : List (String × String)) (m : String × Toml) :
      (do pure (Keyed.insert m.1 (← Codec.text.ofToml m.2) texts) : Except Mismatch _).toOption =
        (textMember? (m.1, .value m.2)).map fun m => Keyed.insert m.1 m.2 texts := by
    rw [toOption_bind, textMember?, decode]
    cases (Codec.text.ofToml m.2).toOption <;> rfl
  rw [ofList_eq, ← foldlM_map_eq, ofToml, List.foldlM_map]
  simp only [← step]
  exact toOption_foldlM _ members []

theorem decode_texts_json {text : String} {members : List (String × List Char)}
    (object : IsObject text.toList members) :
    decode .texts (.json text) = ((ofJson members).mapM textMember?).map Keyed.ofList := by
  have step (texts : List (String × String)) (m : String × List Char) :
      Codec.putText texts m.1 m.2 =
        (textMember? (m.1, .json (String.ofList m.2))).map fun m =>
          Keyed.insert m.1 m.2 texts := by
    rw [Codec.putText, textMember?, decode_ofList, Option.map_map]
    rfl
  rw [ofList_eq, ← foldlM_map_eq, ofJson, List.foldlM_map, decode_json]
  simp only [← step]
  generalize text.toList = cs at object
  obtain ⟨front, body, back, keys⟩ := object
  rw [← foldlM_takeMember _ keys, ← (Codec.takes_texts body 126).whole? back]
  exact congrArg (fun reading => (Json.finish reading).toOption)
    ((Codec.readsValues_texts usualDepth).blanks front _)

/-- Texts under keys are wanted: an object is taken if it holds nothing but texts. -/
theorem decode_texts {doc : Document} {members : List (String × Document)}
    (object : doc.Object members) :
    doc.decode .texts = (members.mapM textMember?).map Keyed.ofList := by
  cases object with
  | json object => exact decode_texts_json object
  | @toml text members parsed =>
    rw [← decode_texts_value, decode, Codec.parseToml, parsed]
    exact toOption_mapError _ _
  | value => exact decode_texts_value _

/-! ## All of it -/

/-- A value is taken as each type by what it stands for. -/
structure ByType (doc : Document) : Prop where
  text : doc.decode .text = doc.plain.bind text?
  uint64 : doc.decode .uint64 =
    (doc.plain.bind (between? 0 0xffffffffffffffff)).map fun n => UInt64.ofNat n.toNat
  uint32 : doc.decode .uint32 =
    (doc.plain.bind (between? 0 0xffffffff)).map fun n => UInt32.ofNat n.toNat
  unset : doc.IsNull → ∀ {α : Type} (c : Codec α), doc.decode c.option = some none
  set : ¬ doc.IsNull → ∀ {α : Type} (c : Codec α), doc.decode c.option = (doc.decode c).map some
  choice : ∀ {α : Type} (choices : List (String × α)) (nameOf : α → String) {name : String},
    doc.plain.bind text? = some name → doc.decode (.choice choices nameOf) = choices.lookup name
  texts : ∀ {members : List (String × Document)}, doc.Object members →
    doc.decode .texts = (members.mapM textMember?).map Keyed.ofList

theorem IsValue.byType {doc : Document} (value : doc.IsValue) : doc.ByType where
  text := decode_text value
  uint64 := decode_uint64 value
  uint32 := decode_uint32 value
  unset null _ c := decode_option_null c null
  set other _ c := decode_option c value other
  choice choices nameOf _ named := decode_choice choices nameOf value named
  texts object := decode_texts object

/-- The members of an object are values. -/
theorem Object.isValue {doc : Document} {members : List (String × Document)}
    (object : doc.Object members) : ∀ m ∈ members, m.2.IsValue := by
  cases object with
  | json object =>
    intro m member
    obtain ⟨n, inside, rfl⟩ := List.mem_map.mp member
    refine .json ?_
    rw [String.toList_ofList]
    exact object.value n inside
  | toml _ | value =>
    intro m member
    obtain ⟨n, -, rfl⟩ := List.mem_map.mp member
    exact .value

end Document

end IngestWatch
