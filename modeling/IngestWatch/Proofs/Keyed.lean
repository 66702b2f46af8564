import IngestWatch.Keyed
import Mathlib.Data.List.Sort
import Mathlib.Data.String.Basic
import Mathlib.Tactic

/-!
Lists in ascending order of their keys. Whatever is put into such a list, it stays one; and as
members with distinct keys can be put in order in one way only, it does not matter in which order
they come. What is put in order has under each key what was put there last, so it does not depend
on anything else.
-/

namespace IngestWatch.Keyed

variable {α : Type} {key : String} {value : α} {members others : List (String × α)}

/-! ## Keys that come once -/

theorem lookup_eq_some_iff_mem (once : (members.map Prod.fst).Nodup) :
    members.lookup key = some value ↔ (key, value) ∈ members := by
  induction members with
  | nil => simp
  | cons m members ih =>
    obtain ⟨k, w⟩ := m
    rw [List.map_cons, List.nodup_cons] at once
    rw [List.mem_cons, ← ih once.2, List.lookup_cons]
    by_cases same : key = k
    · subst same
      have silent : members.lookup key ≠ some value := fun found =>
        once.1 (List.mem_map.mpr ⟨(key, value), (ih once.2).mp found, rfl⟩)
      simp [silent, eq_comm]
    · have other : (key == k) = false := by simpa using same
      simp [other, same]

/-- Where no key comes twice, the order of the members does not matter. -/
theorem lookup_eq_of_perm (once : (members.map Prod.fst).Nodup) (same : members.Perm others)
    (key : String) : members.lookup key = others.lookup key := by
  have once' : (others.map Prod.fst).Nodup := (same.map Prod.fst).nodup_iff.mp once
  refine Option.ext fun value => ?_
  rw [lookup_eq_some_iff_mem once, lookup_eq_some_iff_mem once', same.mem_iff]

theorem find?_eq_lookup (key : String) (members : List (String × α)) :
    find? key members = members.lookup key := by
  induction members with
  | nil => rfl
  | cons m rest ih =>
    obtain ⟨k, v⟩ := m
    rw [find?, List.lookup_cons]
    split
    · next same => simp [same]
    · next other =>
      have passed : (key == k) = false := by simpa using other
      rw [passed, ih]

/-! ## Insertion -/

theorem mem_insert {m : String × α} (inside : m ∈ insert key value members) :
    m = (key, value) ∨ m ∈ members := by
  induction members with
  | nil => exact .inl (List.mem_singleton.mp inside)
  | cons first rest ih =>
    obtain ⟨k, v⟩ := first
    rw [insert] at inside
    split at inside
    · exact List.mem_cons.mp inside
    split at inside
    · exact (List.mem_cons.mp inside).imp_right (List.mem_cons_of_mem _)
    · rcases List.mem_cons.mp inside with rfl | later
      · exact .inr List.mem_cons_self
      · exact (ih later).imp_right (List.mem_cons_of_mem _)

theorem Ascending.insert (sorted : Ascending members) (key : String) (value : α) :
    Ascending (Keyed.insert key value members) := by
  induction members with
  | nil => exact List.pairwise_singleton _ _
  | cons first rest ih =>
    obtain ⟨k, v⟩ := first
    obtain ⟨least, others⟩ := List.pairwise_cons.mp sorted
    rw [Keyed.insert]
    split
    case isTrue before =>
      refine List.pairwise_cons.mpr ⟨fun m inside => ?_, sorted⟩
      rcases List.mem_cons.mp inside with rfl | later
      · exact before
      · exact before.trans (least m later)
    case isFalse notBefore =>
      split
      case isTrue same =>
        subst same
        exact List.pairwise_cons.mpr ⟨least, others⟩
      case isFalse other =>
        have behind : k < key := lt_of_le_of_ne (not_lt.mp notBefore) (Ne.symm other)
        refine List.pairwise_cons.mpr ⟨fun m inside => ?_, ih others⟩
        rcases mem_insert inside with rfl | later
        · exact behind
        · exact least m later

theorem perm_insert (fresh : key ∉ members.map Prod.fst) :
    (insert key value members).Perm ((key, value) :: members) := by
  induction members with
  | nil => exact .refl _
  | cons first rest ih =>
    obtain ⟨k, v⟩ := first
    rw [List.map_cons, List.mem_cons, not_or] at fresh
    rw [insert]
    split
    · exact .refl _
    · rw [if_neg fresh.1]
      exact ((ih fresh.2).cons (k, v)).trans (.swap _ _ _)

/-! ## Whole lists -/

theorem ascending_foldl_insert (members : List (String × α)) {sorted : List (String × α)}
    (ascending : Ascending sorted) :
    Ascending (members.foldl (fun sorted m => insert m.1 m.2 sorted) sorted) := by
  induction members generalizing sorted with
  | nil => exact ascending
  | cons m rest ih => exact ih (ascending.insert m.1 m.2)

theorem ascending_ofList (members : List (String × α)) : Ascending (ofList members) :=
  ascending_foldl_insert members .nil

theorem perm_foldl_insert (once : (members.map Prod.fst).Nodup) {sorted : List (String × α)}
    (fresh : ∀ key ∈ members.map Prod.fst, key ∉ sorted.map Prod.fst) :
    (members.foldl (fun sorted m => insert m.1 m.2 sorted) sorted).Perm (members ++ sorted) := by
  induction members generalizing sorted with
  | nil => exact .refl _
  | cons m rest ih =>
    obtain ⟨key, value⟩ := m
    rw [List.map_cons, List.nodup_cons] at once
    have put : (insert key value sorted).Perm ((key, value) :: sorted) :=
      perm_insert (fresh key List.mem_cons_self)
    have unseen : ∀ k ∈ rest.map Prod.fst, k ∉ (insert key value sorted).map Prod.fst := by
      intro k later seen
      rw [(put.map Prod.fst).mem_iff, List.map_cons, List.mem_cons] at seen
      rcases seen with rfl | earlier
      · exact once.1 later
      · exact fresh k (.tail _ later) earlier
    exact (ih once.2 unseen).trans ((put.append_left rest).trans List.perm_middle)

/-- Where no key comes twice, nothing is lost. -/
theorem perm_ofList (once : (members.map Prod.fst).Nodup) : (ofList members).Perm members := by
  have put : (ofList members).Perm (members ++ []) :=
    perm_foldl_insert once fun _ _ => List.not_mem_nil
  rwa [List.append_nil] at put

theorem Ascending.once (sorted : Ascending members) : (members.map Prod.fst).Nodup := by
  refine List.pairwise_map.mpr (sorted.imp fun before => ?_)
  exact ne_of_lt before

/-- There is one way to put members in order. -/
theorem Ascending.eq_of_perm (sorted : Ascending members) (sorted' : Ascending others)
    (same : members.Perm others) : members = others :=
  same.eq_of_pairwise (fun _ _ _ _ before after => absurd (before.trans after) (lt_irrefl _))
    sorted sorted'

/-- Members in order come out as they were, in whatever order they went in. -/
theorem ofList_of_perm (sorted : Ascending members) (same : others.Perm members) :
    ofList others = members := by
  have once : (others.map Prod.fst).Nodup := (same.map Prod.fst).nodup_iff.mpr sorted.once
  exact (ascending_ofList others).eq_of_perm sorted ((perm_ofList once).trans same)

/-! ## The last value under each key -/

theorem find?_append (key : String) (members others : List (String × α)) :
    find? key (members ++ others) = (find? key members).or (find? key others) := by
  rw [find?_eq_lookup, find?_eq_lookup, find?_eq_lookup, List.lookup_append]

theorem find?_insert (name : String) :
    find? name (insert key value members) =
      if name = key then some value else find? name members := by
  induction members with
  | nil => rfl
  | cons first rest ih =>
    obtain ⟨k, v⟩ := first
    rw [insert]
    split
    · rw [find?]
    split
    · next same =>
      rw [find?, find?, same]
      split <;> rfl
    · next other =>
      rw [find?, find?, ih]
      by_cases here : name = k
      · have aside : name ≠ key := fun same => other (same.symm.trans here)
        rw [if_pos here, if_neg aside, if_pos here]
      · rw [if_neg here, if_neg here]

theorem find?_foldl_insert (members : List (String × α)) (sorted : List (String × α)) :
    find? key (members.foldl (fun sorted m => insert m.1 m.2 sorted) sorted) =
      (find? key members.reverse).or (find? key sorted) := by
  induction members generalizing sorted with
  | nil => rfl
  | cons m rest ih =>
    rw [List.foldl_cons, ih, find?_insert, List.reverse_cons, find?_append, Option.or_assoc]
    congr 1
    rw [find?]
    split <;> rfl

/-- Under each key stands what came last. -/
theorem find?_ofList (key : String) (members : List (String × α)) :
    find? key (ofList members) = find? key members.reverse := by
  rw [ofList, find?_foldl_insert]
  exact Option.or_none

theorem mem_ofList_iff :
    (key, value) ∈ ofList members ↔ find? key members.reverse = some value := by
  rw [← find?_ofList, find?_eq_lookup, lookup_eq_some_iff_mem (ascending_ofList members).once]

/-- Members that leave the same under every key are the same once they are in order. -/
theorem ofList_eq_of_find? (same : ∀ key, find? key members.reverse = find? key others.reverse) :
    ofList members = ofList others := by
  have distinct (members : List (String × α)) : (ofList members).Nodup :=
    (ascending_ofList members).once.of_map Prod.fst
  refine (ascending_ofList members).eq_of_perm (ascending_ofList others)
    ((List.perm_ext_iff_of_nodup (distinct members) (distinct others)).mpr fun m => ?_)
  obtain ⟨key, value⟩ := m
  rw [mem_ofList_iff, mem_ofList_iff, same]

end IngestWatch.Keyed
