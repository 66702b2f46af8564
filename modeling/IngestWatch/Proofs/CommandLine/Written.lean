import IngestWatch.Proofs.CommandLine.Relevelled
import IngestWatch.Proofs.Keyed

/-!
Options written on a command line and read from it. Each is written as one argument, its text
behind an equals sign, or as two where its text may begin with a hyphen; whatever the texts are,
and in whatever order the options come, the reader settles exactly what was written.
-/

namespace IngestWatch.CommandLine

/-! ## Writing -/

/-- The arguments for an option and its text. `apart` names the options whose text is an argument
of its own. -/
def words (apart : List String) : String × Option String → List String
  | (name, none) => ["--" ++ name]
  | (name, some text) =>
    if name ∈ apart then ["--" ++ name, text] else ["--" ++ name ++ "=" ++ text]

/-- The names and texts that a table gives. A row without anything is left out; a switch has
no text. -/
def given (table : List (String × Option (Option String))) : List (String × Option String) :=
  table.filterMap fun (name, value) => value.map (name, ·)

/-- A switch is given without a text or not at all. -/
def switched (on : Bool) : Option (Option String) :=
  if on then some none else none

theorem nodup_given {table : List (String × Option (Option String))}
    (once : (table.map Prod.fst).Nodup) : ((given table).map Prod.fst).Nodup := by
  refine once.sublist ?_
  rw [given]
  clear once
  induction table with
  | nil => exact .slnil
  | cons row rest ih =>
    obtain ⟨name, value⟩ := row
    cases value with
    | none => exact ih.cons name
    | some v => exact ih.cons_cons name

theorem mem_given_iff {table : List (String × Option (Option String))} {name : String}
    {text : Option String} : (name, text) ∈ given table ↔ (name, some text) ∈ table := by
  simp [given]

/-- In whatever order the entries come, a name leads to what the table gives under it. -/
theorem lookup_of_perm_given {table : List (String × Option (Option String))}
    (once : (table.map Prod.fst).Nodup) {order : List (String × Option String)}
    (perm : order.Perm (given table)) (name : String) :
    order.lookup name = (table.lookup name).join := by
  have distinct := nodup_given once
  rw [← Keyed.lookup_eq_of_perm distinct perm.symm]
  refine Option.ext fun text => ?_
  rw [Keyed.lookup_eq_some_iff_mem distinct, mem_given_iff, ← Keyed.lookup_eq_some_iff_mem once,
    Option.join_eq_some_iff]

/-! ## Reading -/

namespace State

variable {s t : State}

/-- Settles some entries more. -/
def put (s : State) (entries : List (String × Option String)) : State :=
  { s with settled := s.settled ++ entries }

theorem put_nil (s : State) : s.put [] = s := by simp [put]

theorem put_put (s : State) (first more : List (String × Option String)) :
    (s.put first).put more = s.put (first ++ more) := by simp [put]

theorem has_put (s : State) (entries : List (String × Option String)) (name : String) :
    (s.put entries).has name = (s.has name || (entries.lookup name).isSome) := by
  simp [put, has, List.lookup_append, Option.isSome_or]

/-- The state waits for nothing, and settling it leads to another, with nothing left to settle. -/
structure ComesTo (s t : State) : Prop where
  ready : s.awaited = none
  settle : s.settle = .ok t
  idle : t.pending = none

theorem comesTo_self (idle : t.pending = none) : t.ComesTo t where
  ready := by rw [awaited, idle]
  settle := by rw [State.settle, idle]
  idle := idle

theorem add_fresh {name : String} (fresh : t.has name = false) (shown : String)
    (value : Option String) : t.add name shown value = .ok (t.put [(name, value)]) := by
  rw [add, fresh]
  rfl

theorem addValue_fresh {a : Argument} {text : String} (fresh : t.has a.name = false)
    (fits : a.kind.check a.shown text = .ok ()) :
    t.addValue a text = .ok (t.put [(a.name, some text)]) := by
  rw [addValue, add_fresh fresh, ok_bind, fits]
  rfl

end State

namespace Command

variable {c : Command}

/-- A command that does something with its options alone. Their names stand out from what is
written behind them, and none of them asks for a text. -/
structure Spells (c : Command) : Prop where
  lays : c.Lays
  single : c.isGroup = false
  bare : c.operand = none
  named : ∀ o ∈ c.options, o.name ≠ "" ∧ '=' ∉ o.name.toList ∧ o ≠ helpOpt ∧ o ≠ versionOpt

/-- A command has an option for a name and a text, and the text will do. It is written apart only
where it may be any text. -/
inductive Takes (c : Command) (apart : List String) : String × Option String → Prop where
  | switch {name : String} {o : Opt} (found : c.options.find? (·.name = name) = some o)
      (bare : o.value = none) : c.Takes apart (name, none)
  | text {name : String} {o : Opt} (found : c.options.find? (·.name = name) = some o) {v : Value}
      (valued : o.value = some v) {text : String} (fits : v.kind.check o.shown text = .ok ())
      (signed : name ∈ apart → v.signed = true) : c.Takes apart (name, some text)

section
variable {apart : List String} {name : String} {o : Opt}
  (found : c.options.find? (·.name = name) = some o)
include found

theorem takes_switched (bare : o.value = none) (on : Bool) :
    ∀ text, switched on = some text → c.Takes apart (name, text) := by
  intro text given
  obtain rfl : none = text := by
    unfold switched at given
    split at given
    · exact Option.some.inj given
    · cases given
  exact .switch found bare

theorem takes_written {α : Type} {x : Option α} (write : α → String) {v : Value}
    (valued : o.value = some v) (fits : ∀ a ∈ x, v.kind.check o.shown (write a) = .ok ())
    (signed : name ∈ apart → v.signed = true) :
    ∀ text, (x.map fun a => some (write a)) = some text → c.Takes apart (name, text) := by
  intro text given
  obtain ⟨a, here, rfl⟩ := Option.map_eq_some_iff.mp given
  exact .text found valued (fits a here) signed

end

section
variable {ctx : Context} {s t : State} {o : Opt} {v : Value} {text : String}

theorem readOpt_switch (bare : o.value = none) (own : o ≠ helpOpt ∧ o ≠ versionOpt)
    (comes : s.ComesTo t) (fresh : t.has o.name = false) :
    c.readOpt ctx o none s = .ok (t.put [(o.name, none)]) := by
  simp only [readOpt, bare, comes.settle, ok_bind, own.1, own.2, if_false]
  exact State.add_fresh fresh _ _

theorem readOpt_attached (valued : o.value = some v) (fits : v.kind.check o.shown text = .ok ())
    (comes : s.ComesTo t) (fresh : t.has o.name = false) :
    c.readOpt ctx o (some text) s = .ok (t.put [(o.name, some text)]) := by
  simp only [readOpt, valued, comes.settle, ok_bind]
  exact State.addValue_fresh fresh fits

theorem readOpt_apart (valued : o.value = some v) (comes : s.ComesTo t) :
    c.readOpt ctx o none s = .ok { t with pending := some (o.argument v, none) } := by
  simp only [readOpt, valued, State.begin_, comes.settle, ok_bind]
  rfl

variable (found : c.options.find? (·.name = o.name) = some o)
include found

theorem find?_allOptions : c.allOptions.find? (·.name = o.name) = some o := by
  simp [allOptions, List.find?_append, found]

theorem readLong_name (plain : '=' ∉ o.name.toList) :
    c.readLong ctx o.name.toList s = c.readOpt ctx o none s := by
  simp [readLong, Text.cutAt?_of_not_mem plain, find?_allOptions found]

theorem readLong_pair (plain : '=' ∉ o.name.toList) (valued : o.value = some v) :
    c.readLong ctx (o.name.toList ++ '=' :: text.toList) s = c.readOpt ctx o (some text) s := by
  simp [readLong, Text.cutAt?_append plain, find?_allOptions found, valued]

end

section
variable {apart : List String} {s t : State} (spells : c.Spells) (ctx : Context)
  (command : List String)
include spells

/-- An argument with two hyphens is read as an option by its long name. -/
theorem read_long_word (ready : s.awaited = none) {long : String} (some : long ≠ "")
    (rest : List String) :
    c.read ctx command false s (("--" ++ long) :: rest) =
      c.readLong ctx long.toList s >>= fun t => c.read ctx command false t rest := by
  obtain ⟨first, others, shape⟩ :=
    List.exists_cons_of_ne_nil (by simpa using some : long.toList ≠ [])
  have begins : ("--" ++ long).toList = '-' :: '-' :: first :: others := by simp [shape]
  have hyphen : Hyphen ("--" ++ long) := by
    refine ⟨fun two => ?_, '-', first :: others, begins, by decide⟩
    rw [two] at begins
    cases begins
  refine read_long spells.lays hyphen (fun a waits => ?_) ?_
  · cases ready.symm.trans waits
  · rw [begins, shape]
    rfl

/-- One entry: behind its arguments the reader goes on as if the entry were settled. -/
theorem read_words {e : String × Option String} (takes : c.Takes apart e) (comes : s.ComesTo t)
    (fresh : t.has e.1 = false) :
    ∃ s' : State, s'.ComesTo (t.put [e]) ∧ ∀ rest,
      c.read ctx command false s (words apart e ++ rest) = c.read ctx command false s' rest := by
  have idle (e : String × Option String) : (t.put [e]).ComesTo (t.put [e]) :=
    State.comesTo_self comes.idle
  cases takes with
  | @switch name o found bare =>
    obtain rfl : o.name = name := by simpa using List.find?_some found
    obtain ⟨some, plain, own⟩ := spells.named o (List.mem_of_find?_eq_some found)
    refine ⟨_, idle _, fun rest => ?_⟩
    rw [words, List.singleton_append, read_long_word spells ctx command comes.ready some,
      readLong_name found plain, readOpt_switch bare own comes fresh, ok_bind]
  | @text name o found v valued text fits signed =>
    obtain rfl : o.name = name := by simpa using List.find?_some found
    obtain ⟨some, plain, -⟩ := spells.named o (List.mem_of_find?_eq_some found)
    by_cases two : o.name ∈ apart
    · -- The text is given to the option that waits for it and settled with what comes next.
      refine ⟨{ t with pending := .some (o.argument v, .some text) }, ⟨rfl, ?_, comes.idle⟩,
        fun rest => ?_⟩
      · have settled : t.addValue (o.argument v) text = .ok (t.put [(o.name, .some text)]) :=
          State.addValue_fresh fresh fits
        have cleared : { t with pending := none } = t := by rw [← comes.idle]
        simpa only [State.settle, cleared] using settled
      · have waits : State.awaited { t with pending := .some (o.argument v, none) } =
            .some (o.argument v) := rfl
        rw [words, if_pos two, List.cons_append, read_long_word spells ctx command comes.ready some,
          readLong_name found plain, readOpt_apart valued comes, ok_bind, List.singleton_append,
          read_signed waits (signed two)]
        rfl
    · refine ⟨_, idle _, fun rest => ?_⟩
      have long : ("--" ++ o.name ++ "=" ++ text : String) = "--" ++ (o.name ++ "=" ++ text) := by
        simp [String.append_assoc]
      have parts : (o.name ++ "=" ++ text).toList = o.name.toList ++ '=' :: text.toList := by simp
      rw [words, if_neg two, long, List.singleton_append,
        read_long_word spells ctx command comes.ready (by simp), parts,
        readLong_pair found plain valued, readOpt_attached valued fits comes fresh, ok_bind]

/-- All entries, one after the other. -/
theorem read_flatMap_words {entries : List (String × Option String)}
    (takes : ∀ e ∈ entries, c.Takes apart e) (once : (entries.map Prod.fst).Nodup)
    (comes : s.ComesTo t) (fresh : ∀ e ∈ entries, t.has e.1 = false) :
    ∃ s' : State, s'.ComesTo (t.put entries) ∧
      c.read ctx command false s (entries.flatMap (words apart)) =
        c.read ctx command false s' [] := by
  induction entries generalizing s t with
  | nil => exact ⟨s, by rwa [State.put_nil], rfl⟩
  | cons e rest ih =>
    rw [List.map_cons, List.nodup_cons] at once
    obtain ⟨s', comes', read⟩ := read_words spells ctx command
      (takes e List.mem_cons_self) comes (fresh e List.mem_cons_self)
    have unseen : ∀ f ∈ rest, (t.put [e]).has f.1 = false := by
      intro f later
      have other : f.1 ≠ e.1 := fun same => once.1 (List.mem_map.mpr ⟨f, later, same⟩)
      rw [State.has_put, fresh f (.tail _ later)]
      simp [other]
    obtain ⟨s'', comes'', all⟩ := ih (fun f later => takes f (.tail _ later)) once.2 comes' unseen
    rw [State.put_put] at comes''
    exact ⟨s'', comes'', by rw [List.flatMap_cons, read, all]⟩

end

/-! ## Options that exclude each other -/

theorem has_iff {s : State} {name : String} :
    s.has name = true ↔ ∃ value, (name, value) ∈ s.settled := by
  rw [State.has, ← Option.ne_none_iff_isSome, ne_eq, List.lookup_eq_none_iff]
  constructor
  · intro met
    by_contra none
    refine met fun e member => ?_
    by_contra same
    obtain rfl : name = e.1 := by simpa using same
    exact none ⟨e.2, member⟩
  · rintro ⟨value, member⟩ none
    simpa using none _ member

/-- There is a clash exactly if two options were given of which only one may be. -/
theorem clash?_eq_none_iff {s : State} :
    c.clash? s = none ↔ ∀ p ∈ c.exclusive, ¬ (s.has p.1 = true ∧ s.has p.2 = true) := by
  simp only [clash?, List.findSome?_eq_none_iff]
  constructor
  · rintro clashless p pair ⟨first, second⟩
    obtain ⟨value, member⟩ := has_iff.mp first
    have here := clashless _ member p pair
    simp [second] at here
  · rintro apart ⟨name, value⟩ member ⟨a, b⟩ pair
    have given : s.has name = true := has_iff.mpr ⟨value, member⟩
    dsimp only
    split
    · next both => exact absurd ⟨both.1 ▸ given, both.2⟩ (apart _ pair)
    · split
      · next both => exact absurd ⟨both.2, both.1 ▸ given⟩ (apart _ pair)
      · rfl

/-! ## Whole command lines -/

section
variable {table : List (String × Option (Option String))} {order : List (String × Option String)}
  (once : (table.map Prod.fst).Nodup) (perm : order.Perm (given table))
include once perm

theorem lookup_settled_put (name : String) :
    (State.initial.put order).settled.lookup name = (table.lookup name).join :=
  lookup_of_perm_given once perm name

/-- The arguments for what a table gives, in any order, are read to the end, and the command is
told what the table gives. -/
theorem read_table (spells : c.Spells) {apart : List String}
    (takes : ∀ row ∈ table, ∀ text, row.2 = some text → c.Takes apart (row.1, text))
    (single : ∀ p ∈ c.exclusive,
      ¬ ((table.lookup p.1).join.isSome = true ∧ (table.lookup p.2).join.isSome = true))
    (env : Variables) (path command : List String) :
    c.read ⟨env, path⟩ command false .initial (order.flatMap (words apart)) =
      .ok ⟨command, c.told env (State.initial.put order)⟩ := by
  have all : ∀ e ∈ order, c.Takes apart e := fun e member =>
    takes _ (mem_given_iff.mp (perm.mem_iff.mp member)) _ rfl
  have distinct : (order.map Prod.fst).Nodup :=
    (perm.map Prod.fst).nodup_iff.mpr (nodup_given once)
  obtain ⟨s, comes, read⟩ := read_flatMap_words spells ⟨env, path⟩ command all distinct
    (State.comesTo_self (t := .initial) rfl) fun _ _ => rfl
  have enough : c.Suffices (State.initial.put order) := by
    refine ⟨spells.single, clash?_eq_none_iff.mpr fun p pair => ?_, fun o operand => ?_⟩
    · rw [State.has, State.has, lookup_settled_put once perm, lookup_settled_put once perm]
      exact single p pair
    · cases spells.bare.symm.trans operand
  rw [read, Command.read]
  exact (finish_eq_ok_iff_told spells.lays.opened).mpr ⟨_, comes.settle, enough, rfl⟩

theorem lookup_told_table (opened : c.Open) {name : String} {o : Opt}
    (found : c.options.find? (·.name = name) = some o) :
    (c.told unset (State.initial.put order)).lookup name =
      (table.lookup name).join.or (o.initial?.map some) := by
  have member := List.mem_of_find?_eq_some found
  obtain rfl : o.name = name := by simpa using List.find?_some found
  have silent : o.fromVariables? unset = none := by
    rw [Opt.fromVariables?]
    cases o.value.bind (·.envName) <;> rfl
  rw [lookup_told_of_mem opened member, lookup_settled_put once perm, silent, Option.map_none,
    Option.or_none]

section
variable (opened : c.Open) {n : String} {o : Opt}
  (found : c.options.find? (·.name = n) = some o) (names : List String)
include opened found

/-- The text of an option is the one that its row gives, or else what it is from the beginning. -/
theorem text?_of_row {α : Type} {x : Option α} (write : α → String)
    (row : table.lookup n = some (x.map fun a => some (write a)))
    (silent : x = none → o.initial? = none) :
    (Matches.mk names (c.told unset (State.initial.put order))).text? n = x.map write := by
  rw [Matches.text?, lookup_told_table once perm opened found, row]
  cases x with
  | none =>
    rw [silent rfl]
    rfl
  | some a => rfl

theorem isSet_of_row {on : Bool} (row : table.lookup n = some (switched on))
    (bare : o.value = none) :
    (Matches.mk names (c.told unset (State.initial.put order))).isSet n = on := by
  rw [Matches.isSet, lookup_told_table once perm opened found, row, Opt.initial?, bare]
  cases on <;> rfl

end

end

end Command

end IngestWatch.CommandLine
