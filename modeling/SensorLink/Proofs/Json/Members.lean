import SensorLink.Json.Value
import Mathlib.Data.List.Forall2
import Mathlib.Data.String.Basic

/-!
# Members in order

`insertMember` keeps a list of members in the order of their keys, and each key once. `Ascending`
says both; what is in the list is said of its keys. Such a list holds nothing but what is found in
it under each key (`Ascending.ext`), so to know what sorting makes of some members it is enough to
know what is found: of two members with one key the later (`member?_sortMembers`).

Two lists of members can hold the same keys in the same order, and be related value by value. Then
they are `Entrywise` so, and they stay so when both are sorted.
-/

namespace SensorLink
namespace Json

variable {β γ : Type}

/-- The keys of some members, in their order. -/
def keys (members : List (String × β)) : List String := members.map (·.1)

def Ascending (members : List (String × β)) : Prop := (keys members).Pairwise (· < ·)

@[simp] theorem keys_nil : keys ([] : List (String × β)) = [] := rfl

@[simp] theorem keys_cons (key : String) (value : β) (members : List (String × β)) :
    keys ((key, value) :: members) = key :: keys members := rfl

theorem mem_keys_iff {key : String} {members : List (String × β)} :
    key ∈ keys members ↔ (member? key members).isSome := by
  rw [member?, Option.isSome_map, List.find?_isSome, keys, List.mem_map]
  simp only [decide_eq_true_eq]

theorem member?_eq_none_iff {key : String} {members : List (String × β)} :
    member? key members = none ↔ key ∉ keys members := by
  rw [mem_keys_iff, Option.not_isSome_iff_eq_none]

theorem member?_cons (key k : String) (value : β) (members : List (String × β)) :
    member? key ((k, value) :: members) = if k = key then some value else member? key members := by
  by_cases h : k = key <;> simp [member?, h]

/-- The first member of a key is the one that is found. -/
theorem member?_append (key : String) (members more : List (String × β)) :
    member? key (members ++ more) = (member? key members).or (member? key more) := by
  simp only [member?, List.find?_append, Option.map_or]

theorem mem_keys_of_mem {key : String} {value : β} {members : List (String × β)}
    (h : (key, value) ∈ members) : key ∈ keys members := List.mem_map_of_mem (f := (·.1)) h

theorem nodup_keys_perm {members others : List (String × β)} (h : members.Perm others) :
    (keys members).Nodup ↔ (keys others).Nodup := (List.Perm.map Prod.fst h).nodup_iff

/-- Where each key stands once, what is found is what is there. -/
theorem member?_eq_some_iff_mem {key : String} {value : β} {members : List (String × β)}
    (hnodup : (keys members).Nodup) : member? key members = some value ↔ (key, value) ∈ members := by
  induction members with
  | nil => simp [member?]
  | cons m rest ih =>
    obtain ⟨k, v⟩ := m
    obtain ⟨hfresh, hrest⟩ := List.nodup_cons.mp hnodup
    rw [member?_cons, List.mem_cons, Prod.mk.injEq]
    split
    · rename_i heq
      subst heq
      have habsent : (k, value) ∉ rest := fun hmem => hfresh (mem_keys_of_mem hmem)
      simp [habsent, eq_comm]
    · rename_i hne
      rw [ih hrest]
      simp [Ne.symm hne]

/-- If no key is repeated, the order of the members does not matter to a lookup. -/
theorem member?_perm {key : String} {members others : List (String × β)}
    (hnodup : (keys members).Nodup) (h : members.Perm others) :
    member? key members = member? key others := by
  have hothers := (nodup_keys_perm h).mp hnodup
  ext value
  rw [member?_eq_some_iff_mem hnodup, member?_eq_some_iff_mem hothers, h.mem_iff]

theorem mem_keys_insertMember {key other : String} {value : β} {members : List (String × β)} :
    other ∈ keys (insertMember key value members) ↔ other = key ∨ other ∈ keys members := by
  rw [mem_keys_iff, mem_keys_iff, member?_insertMember]
  by_cases h : key = other
  · simp [h]
  · simp [h, Ne.symm h]

/-- A new key goes before the first that is larger. -/
theorem Ascending.insertMember {key : String} {value : β} {members : List (String × β)}
    (h : Ascending members) : Ascending (insertMember key value members) := by
  induction members with
  | nil => simp [Json.insertMember, Ascending]
  | cons m rest ih =>
    obtain ⟨k, v⟩ := m
    obtain ⟨hfirst, hrest⟩ := List.pairwise_cons.mp h
    unfold Json.insertMember
    split
    next heq =>
      -- The key is there already.
      subst heq
      exact h
    next hne =>
      split
      next hlt =>
        -- In front of a larger one.
        apply List.pairwise_cons.mpr
        refine ⟨?_, h⟩
        intro other hother
        rcases List.mem_cons.mp hother with rfl | hlater
        · exact hlt
        · exact hlt.trans (hfirst other hlater)
      next hge =>
        -- Somewhere behind, where everything is larger than the first still.
        apply List.pairwise_cons.mpr
        refine ⟨?_, ih hrest⟩
        intro other hother
        rcases mem_keys_insertMember.mp hother with rfl | hlater
        · exact lt_of_le_of_ne (not_lt.mp hge) (Ne.symm hne)
        · exact hfirst other hlater

theorem Ascending.nodup {members : List (String × β)} (h : Ascending members) :
    (keys members).Nodup := h.imp ne_of_lt

theorem Ascending.member?_rest {key : String} {value : β} {rest : List (String × β)}
    (h : Ascending ((key, value) :: rest)) : member? key rest = none := by
  apply member?_eq_none_iff.mpr
  intro hmem
  exact lt_irrefl _ ((List.pairwise_cons.mp h).1 key hmem)

/-- Neither of two first keys can come after the other. -/
theorem Ascending.first_eq {key key' : String} {value value' : β} {rest rest' : List (String × β)}
    (h : Ascending ((key, value) :: rest)) (h' : Ascending ((key', value') :: rest'))
    (hmem : key ∈ keys ((key', value') :: rest')) (hmem' : key' ∈ keys ((key, value) :: rest)) :
    key = key' := by
  rcases List.mem_cons.mp hmem with heq | hlater
  · exact heq
  rcases List.mem_cons.mp hmem' with heq | hlater'
  · exact heq.symm
  · have hlt : key < key' := (List.pairwise_cons.mp h).1 key' hlater'
    have hlt' : key' < key := (List.pairwise_cons.mp h').1 key hlater
    exact absurd hlt (lt_asymm hlt')

/-- Sorted members are what is found under each key. -/
theorem Ascending.ext {members others : List (String × β)} (h : Ascending members)
    (h' : Ascending others) (hsame : ∀ key, member? key members = member? key others) :
    members = others := by
  have hkeys (key : String) : key ∈ keys members ↔ key ∈ keys others := by
    rw [mem_keys_iff, hsame, ← mem_keys_iff]
  induction members generalizing others with
  | nil =>
    cases others with
    | nil => rfl
    | cons m rest => cases (hkeys m.1).mpr (.head _)
  | cons m rest ih =>
    obtain ⟨key, value⟩ := m
    cases others with
    | nil => cases (hkeys key).mp (.head _)
    | cons m' rest' =>
      obtain ⟨key', value'⟩ := m'
      obtain rfl : key = key' := h.first_eq h' ((hkeys key).mp (.head _)) ((hkeys key').mpr (.head _))
      have hvalue := hsame key
      rw [member?_cons, if_pos rfl, member?_cons, if_pos rfl] at hvalue
      cases hvalue
      -- The rests agree as well: on the first key both have nothing more.
      have hrest (other : String) : member? other rest = member? other rest' := by
        by_cases heq : key = other
        · rw [← heq, h.member?_rest, h'.member?_rest]
        · have hlater := hsame other
          rwa [member?_cons, if_neg heq, member?_cons, if_neg heq] at hlater
      congr 1
      apply ih (List.pairwise_cons.mp h).2 (List.pairwise_cons.mp h').2 hrest
      intro other
      rw [mem_keys_iff, hrest, ← mem_keys_iff]

/-! ## Sorting is inserting one after the other -/

/-- Members that are inserted one after the other keep the list in order all the way. -/
theorem ascending_foldl {members sorted : List (String × β)} (h : Ascending sorted) :
    Ascending (members.foldl (fun sorted (k, v) => insertMember k v sorted) sorted) := by
  induction members generalizing sorted with
  | nil => exact h
  | cons m rest ih => exact ih h.insertMember

theorem mem_keys_foldl {members sorted : List (String × β)} {key : String} :
    key ∈ keys (members.foldl (fun sorted (k, v) => insertMember k v sorted) sorted) ↔
      key ∈ keys sorted ∨ key ∈ keys members := by
  induction members generalizing sorted with
  | nil => simp
  | cons m rest ih =>
    obtain ⟨k, v⟩ := m
    rw [List.foldl_cons, ih, mem_keys_insertMember, keys_cons, List.mem_cons]
    tauto

/-- Of the members that are inserted, the last one of a key is left; only where there is none does
the old one stay. -/
theorem member?_foldl {members sorted : List (String × β)} {key : String} :
    member? key (members.foldl (fun sorted (k, v) => insertMember k v sorted) sorted) =
      (member? key members.reverse).or (member? key sorted) := by
  induction members generalizing sorted with
  | nil => rfl
  | cons m rest ih =>
    obtain ⟨k, v⟩ := m
    rw [List.foldl_cons, ih, member?_insertMember, List.reverse_cons, member?_append,
      Option.or_assoc, member?_cons]
    by_cases heq : k = key <;> simp [heq, member?]

theorem ascending_sortMembers (members : List (String × β)) : Ascending (sortMembers members) :=
  ascending_foldl List.Pairwise.nil

theorem mem_keys_sortMembers {members : List (String × β)} {key : String} :
    key ∈ keys (sortMembers members) ↔ key ∈ keys members := by
  rw [sortMembers, mem_keys_foldl]
  simp

/-- Of two members with one key the later counts. -/
theorem member?_sortMembers (key : String) (members : List (String × β)) :
    member? key (sortMembers members) = member? key members.reverse := by
  rw [sortMembers, member?_foldl]
  exact Option.or_none

/-- What counts under a key is its last member; what counts under the others is not seen there. -/
theorem member?_reverse_append_cons {name : String} {before after : List (String × β)}
    (hlast : name ∉ keys after) (value : β) (key : String) :
    member? key (before ++ (name, value) :: after).reverse =
      if name = key then some value else member? key (before ++ after).reverse := by
  have hafter : member? name after.reverse = none := by
    rw [member?_eq_none_iff, keys, List.map_reverse, List.mem_reverse]
    exact hlast
  simp only [List.reverse_append, List.reverse_cons, member?_append, member?_cons, Option.or_assoc]
  split
  · rename_i heq
    subst heq
    rw [hafter]
    rfl
  · rfl

/-- Where each key stands once, sorting makes the same of any order. -/
theorem sortMembers_perm {members others : List (String × β)} (hnodup : (keys members).Nodup)
    (h : members.Perm others) : sortMembers members = sortMembers others := by
  refine (ascending_sortMembers _).ext (ascending_sortMembers _) fun key => ?_
  have hreverse := (nodup_keys_perm (List.reverse_perm members)).mpr hnodup
  have hperm : members.reverse.Perm others.reverse :=
    (List.reverse_perm _).trans (h.trans (List.reverse_perm _).symm)
  rw [member?_sortMembers, member?_sortMembers, member?_perm hreverse hperm]

/-! ## Value by value -/

theorem forall₂_comp {α β γ : Type} {P : α → β → Prop} {Q : β → γ → Prop} {R : α → γ → Prop}
    (hcomp : ∀ a b c, P a b → Q b c → R a c) {as : List α} {bs : List β} {cs : List γ}
    (h : List.Forall₂ P as bs) (h' : List.Forall₂ Q bs cs) : List.Forall₂ R as cs := by
  induction h generalizing cs with
  | nil =>
    cases h'
    exact .nil
  | cons hhead _ ih =>
    cases h' with
    | cons hhead' hrest' => exact .cons (hcomp _ _ _ hhead hhead') (ih hrest')

/-- The same keys in the same order, and values that are related. -/
def Entrywise (R : String → β → γ → Prop) : List (String × β) → List (String × γ) → Prop :=
  List.Forall₂ fun m m' => m.1 = m'.1 ∧ R m.1 m.2 m'.2

section

variable {R : String → β → γ → Prop} {members : List (String × β)} {others : List (String × γ)}

/-- Entries are compared under their keys, so they have the same keys in the same order. -/
theorem Entrywise.keys_eq (h : Entrywise R members others) : keys members = keys others := by
  induction h with
  | nil => rfl
  | cons hhead _ ih => exact congrArg₂ List.cons hhead.1 ih

theorem Entrywise.rel_member? (h : Entrywise R members others) (key : String) :
    Option.Rel (R key) (member? key members) (member? key others) := by
  induction h with
  | nil => exact .none
  | @cons m m' rest rest' hhead _ ih =>
    obtain ⟨k, v⟩ := m
    obtain ⟨k', v'⟩ := m'
    obtain ⟨rfl, hvalue⟩ := hhead
    rw [member?_cons, member?_cons]
    split
    · rename_i heq
      subst heq
      exact .some hvalue
    · exact ih

theorem Entrywise.comp {ε : Type} {S : String → γ → ε → Prop} {T : String → β → ε → Prop}
    (hcomp : ∀ key b c d, R key b c → S key c d → T key b d) {more : List (String × ε)}
    (h : Entrywise R members others) (h' : Entrywise S others more) : Entrywise T members more := by
  refine forall₂_comp ?_ h h'
  rintro ⟨k, b⟩ ⟨_, c⟩ ⟨_, d⟩ ⟨rfl, hbc⟩ ⟨rfl, hcd⟩
  exact ⟨rfl, hcomp k b c d hbc hcd⟩

theorem Entrywise.flip (h : Entrywise R members others) :
    Entrywise (fun key c b => R key b c) others members := by
  refine List.Forall₂.flip (h.imp ?_)
  rintro ⟨k, b⟩ ⟨_, c⟩ ⟨rfl, hbc⟩
  exact ⟨rfl, hbc⟩

theorem Entrywise.right_unique {more : List (String × γ)}
    (hunique : ∀ key b c c', R key b c → R key b c' → c = c') (h : Entrywise R members others)
    (h' : Entrywise R members more) : others = more := by
  refine List.right_unique_forall₂' ?_ h h'
  rintro ⟨k, b⟩ ⟨_, c⟩ ⟨_, c'⟩ ⟨rfl, hc⟩ ⟨rfl, hc'⟩
  exact congrArg (Prod.mk k) (hunique k b c c' hc hc')

/-- A list is compared up to an entry, at it, and behind it. This is how a single entry of a table
is looked at. -/
theorem entrywise_append_cons_iff {before after : List (String × β)} {key : String} {value : β} :
    Entrywise R (before ++ (key, value) :: after) others ↔ ∃ front other back,
      others = front ++ (key, other) :: back ∧ Entrywise R before front ∧ R key value other ∧
        Entrywise R after back := by
  induction before generalizing others with
  | nil =>
    constructor
    · rintro (_ | @⟨_, ⟨k, c⟩, _, back, ⟨hkey, hvalue⟩, hback⟩)
      cases hkey
      exact ⟨[], c, back, rfl, .nil, hvalue, hback⟩
    · rintro ⟨_, other, back, rfl, ⟨⟩, hvalue, hback⟩
      exact .cons ⟨rfl, hvalue⟩ hback
  | cons m before ih =>
    constructor
    · rintro (_ | @⟨_, m', _, rest, hhead, hrest⟩)
      obtain ⟨front, other, back, rfl, hfront, hvalue, hback⟩ := ih.mp hrest
      exact ⟨m' :: front, other, back, rfl, .cons hhead hfront, hvalue, hback⟩
    · rintro ⟨_, other, back, rfl, hfront, hvalue, hback⟩
      cases hfront with
      | cons hhead hfront =>
        exact .cons hhead (ih.mpr ⟨_, other, back, rfl, hfront, hvalue, hback⟩)

end

end Json
end SensorLink
