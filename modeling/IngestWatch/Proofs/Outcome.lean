import Mathlib.Tactic

/-!
Steps that may fail, taken apart: where two of them in a row have come to a value, each of
them has. And steps side by side: what is alike in the first of them is alike in the end.
-/

namespace IngestWatch

variable {ε α β : Type}

theorem ok_bind (a : α) (f : α → Except ε β) : (Except.ok a >>= f) = f a := rfl

theorem bind_eq_ok {x : Except ε α} {f : α → Except ε β} {b : β} :
    x >>= f = .ok b ↔ ∃ a, x = .ok a ∧ f a = .ok b := by
  cases x with
  | error fault =>
    refine ⟨fun value => ?_, fun ⟨a, value, _⟩ => ?_⟩
    · cases value
    · cases value
  | ok a => simp [ok_bind]

theorem map_eq_ok {x : Except ε α} {f : α → β} {b : β} :
    x.map f = .ok b ↔ ∃ a, x = .ok a ∧ f a = b := by
  cases x <;> simp [Except.map]

theorem mapError_eq_ok {ε' : Type} {x : Except ε α} {f : ε → ε'} {a : α} :
    x.mapError f = .ok a ↔ x = .ok a := by
  cases x <;> simp [Except.mapError]

theorem toOption_map (x : Except ε α) (f : α → β) : (x.map f).toOption = x.toOption.map f := by
  cases x <;> rfl

theorem toOption_bind (x : Except ε α) (f : α → Except ε β) :
    (x >>= f).toOption = x.toOption.bind fun a => (f a).toOption := by
  cases x <;> rfl

theorem toOption_mapError {ε' : Type} (x : Except ε α) (f : ε → ε') :
    (x.mapError f).toOption = x.toOption := by
  cases x <;> rfl

theorem toOption_eq_some_iff {x : Except ε α} {a : α} : x.toOption = some a ↔ x = .ok a := by
  cases x <;> simp [Except.toOption]

theorem toOption_foldlM (f : β → α → Except ε β) (items : List α) (b : β) :
    (items.foldlM f b).toOption = items.foldlM (fun b a => (f b a).toOption) b := by
  induction items generalizing b with
  | nil => rfl
  | cons a rest ih =>
    rw [List.foldlM_cons, List.foldlM_cons, toOption_bind]
    exact congrArg _ (funext ih)

/-- To take items in one by one is to look at them all and to take in what they are. -/
theorem foldlM_map_eq {γ : Type} (g : α → Option γ) (h : β → γ → β) (items : List α) (b : β) :
    items.foldlM (fun b a => (g a).map (h b)) b = (items.mapM g).map (List.foldl h b) := by
  induction items generalizing b with
  | nil => rfl
  | cons a rest ih =>
    rw [List.foldlM_cons, List.mapM_cons]
    cases g a with
    | none => rfl
    | some c =>
      refine (ih (h b c)).trans ?_
      cases rest.mapM g <;> rfl

/-- Steps none of which fails come to what they give one after the other. -/
theorem foldlM_eq_ok {f : β → α → Except ε β} {g : β → α → β} {items : List α}
    (each : ∀ a ∈ items, ∀ b, f b a = .ok (g b a)) (b : β) :
    items.foldlM f b = .ok (items.foldl g b) := by
  induction items generalizing b with
  | nil => rfl
  | cons a rest ih =>
    rw [List.foldlM_cons, each a List.mem_cons_self, ok_bind, List.foldl_cons]
    exact ih (fun a member => each a (.tail _ member)) _

/-! ## Side by side -/

/-- Both have come to values that are related, or both have failed with faults that are. -/
inductive Together {ε' α' : Type} (Alike : ε → ε' → Prop) (Related : α → α' → Prop) :
    Except ε α → Except ε' α' → Prop where
  | ok {a : α} {a' : α'} (related : Related a a') : Together Alike Related (.ok a) (.ok a')
  | error {e : ε} {e' : ε'} (alike : Alike e e') : Together Alike Related (.error e) (.error e')

namespace Together

variable {ε' ε'' α' α'' β' : Type} {Alike : ε → ε' → Prop} {Alike' : ε' → ε'' → Prop}
  {R : α → α' → Prop} {R' : α' → α'' → Prop} {Q : β → β' → Prop}
  {x : Except ε α} {x' : Except ε' α'} {x'' : Except ε'' α''}

theorem bind {f : α → Except ε β} {f' : α' → Except ε' β'} (first : Together Alike R x x')
    (next : ∀ a a', R a a' → Together Alike Q (f a) (f' a')) :
    Together Alike Q (x >>= f) (x' >>= f') := by
  cases first with
  | ok related => exact next _ _ related
  | error alike => exact .error alike

theorem mono {S : α → α' → Prop} (first : Together Alike R x x')
    (weaker : ∀ a a', R a a' → S a a') : Together Alike S x x' := by
  cases first with
  | ok related => exact .ok (weaker _ _ related)
  | error alike => exact .error alike

theorem symm (first : Together Alike R x x') :
    Together (fun e' e => Alike e e') (fun a' a => R a a') x' x := by
  cases first with
  | ok related => exact .ok related
  | error alike => exact .error alike

theorem trans (first : Together Alike R x x') (second : Together Alike' R' x' x'') :
    Together (fun e e'' => ∃ e', Alike e e' ∧ Alike' e' e'')
      (fun a a'' => ∃ a', R a a' ∧ R' a' a'') x x'' := by
  cases first with
  | ok related =>
    cases second with
    | ok related' => exact .ok ⟨_, related, related'⟩
  | error alike =>
    cases second with
    | error alike' => exact .error ⟨_, alike, alike'⟩

/-- Where it does not matter how steps fail. -/
theorem forget (first : Together Alike R x x') : Together (fun _ _ => True) R x x' := by
  cases first with
  | ok related => exact .ok related
  | error => exact .error trivial

theorem exists_ok {a : α} (together : Together Alike R x x') (value : x = .ok a) :
    ∃ a', x' = .ok a' ∧ R a a' := by
  subst value
  cases together with
  | ok related => exact ⟨_, rfl, related⟩

theorem exists_error {e : ε} (together : Together Alike R x x') (fails : x = .error e) :
    ∃ e', x' = .error e' ∧ Alike e e' := by
  subst fails
  cases together with
  | error alike => exact ⟨_, rfl, alike⟩

end Together

end IngestWatch
