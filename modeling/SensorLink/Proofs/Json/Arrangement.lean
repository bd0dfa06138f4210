import SensorLink.Proofs.Json.Members
import SensorLink.Proofs.Json.Written
import Mathlib.Data.List.Perm.Basic

/-!
# One value in many arrangements

The members of an object may be written in any order, at any depth, and `Rearranged` values differ
in nothing else. It is built up from single steps, each of them in one object. To work with it one
wants to know what it says at the top: members are first rearranged where they stand, and then they
change places (`Rearranged.alike`). That the two do not get in each other's way is what makes one
such statement of many steps.
-/

namespace SensorLink
namespace Json

/-- The members of some objects in the value are in another order. -/
inductive Rearranged : Json → Json → Prop
  | refl (v : Json) : Rearranged v v
  | trans {u v w : Json} (h : Rearranged u v) (h' : Rearranged v w) : Rearranged u w
  | perm {members others : List (String × Json)} (h : members.Perm others) :
      Rearranged (.object members) (.object others)
  | member {v w : Json} (before after : List (String × Json)) (key : String) (h : Rearranged v w) :
      Rearranged (.object (before ++ (key, v) :: after)) (.object (before ++ (key, w) :: after))
  | item {v w : Json} (before after : List Json) (h : Rearranged v w) :
      Rearranged (.array (before ++ v :: after)) (.array (before ++ w :: after))

/-- Members are rearranged where they stand, and then change places. -/
def RearrangedMembers (members others : List (String × Json)) : Prop :=
  ∃ middle, Entrywise (fun _ => Rearranged) members middle ∧ middle.Perm others

/-- What `Rearranged` says at the top of a value. -/
def Alike : Json → Json → Prop
  | .object members, .object others => RearrangedMembers members others
  | .array items, .array others => List.Forall₂ Rearranged items others
  | v, w => v = w

/-- Members stand for themselves. It is what lets a rearrangement change a single member. -/
theorem entrywise_refl (members : List (String × Json)) :
    Entrywise (fun _ => Rearranged) members members :=
  List.forall₂_same.mpr fun m _ => ⟨rfl, .refl m.2⟩

theorem RearrangedMembers.trans {members others more : List (String × Json)}
    (h : RearrangedMembers members others) (h' : RearrangedMembers others more) :
    RearrangedMembers members more := by
  obtain ⟨middle, hmiddle, hperm⟩ := h
  obtain ⟨middle', hmiddle', hperm'⟩ := h'
  -- What is done to the members after they have changed places can be done before.
  obtain ⟨early, hearly, hlate⟩ : ∃ early, Entrywise (fun _ => Rearranged) middle early ∧
      early.Perm middle' := List.perm_comp_forall₂ hperm hmiddle'
  refine ⟨early, ?_, hlate.trans hperm'⟩
  exact hmiddle.comp (fun _ _ _ _ => .trans) hearly

theorem Alike.refl (v : Json) : Alike v v := by
  cases v with
  | object members => exact ⟨members, entrywise_refl members, .refl _⟩
  | array items => exact List.forall₂_same.mpr fun item _ => .refl item
  | null | bool _ | number _ | string _ => exact rfl

/-- What is like an object is an object of the same members, moved and rearranged. -/
theorem Alike.exists_members {members : List (String × Json)} {w : Json}
    (h : Alike (.object members) w) :
    ∃ others, w = .object others ∧ RearrangedMembers members others := by
  cases w with
  | object others => exact ⟨others, rfl, h⟩
  | null | bool _ | number _ | string _ | array _ => cases h

theorem Alike.exists_items {items : List Json} {w : Json} (h : Alike (.array items) w) :
    ∃ others, w = .array others ∧ List.Forall₂ Rearranged items others := by
  cases w with
  | array others => exact ⟨others, rfl, h⟩
  | null | bool _ | number _ | string _ | object _ => cases h

/-- One level at a time, so that rearranging twice is rearranging once. -/
theorem Alike.trans {u v w : Json} (h : Alike u v) (h' : Alike v w) : Alike u w := by
  cases u with
  | object members =>
    obtain ⟨others, rfl, hothers⟩ := h.exists_members
    obtain ⟨more, rfl, hmore⟩ := h'.exists_members
    exact RearrangedMembers.trans hothers hmore
  | array items =>
    obtain ⟨others, rfl, hothers⟩ := h.exists_items
    obtain ⟨more, rfl, hmore⟩ := h'.exists_items
    exact forall₂_comp (fun _ _ _ => .trans) hothers hmore
  | null | bool _ | number _ | string _ =>
    cases h
    exact h'

theorem Rearranged.alike {v w : Json} (h : Rearranged v w) : Alike v w := by
  induction h with
  | refl v => exact .refl v
  | trans _ _ ih ih' => exact ih.trans ih'
  | @perm members others h => exact ⟨members, entrywise_refl members, h⟩
  | member before after key h _ =>
    refine ⟨_, entrywise_append_cons_iff.mpr ?_, .refl _⟩
    exact ⟨before, _, after, rfl, entrywise_refl before, h, entrywise_refl after⟩
  | item before after h _ =>
    refine List.rel_append (List.forall₂_same.mpr fun item _ => .refl item) ?_
    exact .cons h (List.forall₂_same.mpr fun item _ => .refl item)

theorem Rearranged.exists_members {members : List (String × Json)} {w : Json}
    (h : Rearranged (.object members) w) :
    ∃ others, w = .object others ∧ RearrangedMembers members others := h.alike.exists_members

theorem Rearranged.exists_items {items : List Json} {w : Json} (h : Rearranged (.array items) w) :
    ∃ others, w = .array others ∧ List.Forall₂ Rearranged items others := h.alike.exists_items

/-! ## What stays as it is -/

theorem membersDepth_perm {members others : List (String × Json)} (h : members.Perm others) :
    membersDepth members = membersDepth others := by
  induction h with
  | nil => rfl
  | cons m _ ih => rw [membersDepth, membersDepth, ih]
  | swap m m' rest => exact Nat.max_left_comm _ _ _
  | trans _ _ ih ih' => exact ih.trans ih'

/-- A rearrangement is as deep as the value. A reader that refuses what is too deep refuses both or
neither. -/
theorem Rearranged.depth_eq {v w : Json} (h : Rearranged v w) : v.depth = w.depth := by
  induction h with
  | refl => rfl
  | trans _ _ ih ih' => exact ih.trans ih'
  | perm h => rw [depth, depth, membersDepth_perm h]
  | member before after key _ ih =>
    simp only [depth, membersDepth_append, membersDepth, ih]
  | item before after _ ih => simp only [depth, itemsDepth_append, itemsDepth, ih]

/-- What is no container has only itself for an arrangement. -/
theorem Rearranged.eq_of_flat {v w : Json} (h : Rearranged v w) (hflat : v.depth = 0) : w = v := by
  cases v with
  | object members => cases hflat
  | array items => cases hflat
  | null | bool _ | number _ | string _ => exact h.alike.symm

theorem RearrangedMembers.keys_perm {members others : List (String × Json)}
    (h : RearrangedMembers members others) : (keys members).Perm (keys others) := by
  obtain ⟨middle, hmiddle, hperm⟩ := h
  rw [hmiddle.keys_eq]
  exact hperm.map Prod.fst

/-- What is found under a key is rearranged, and nothing else becomes of it. -/
theorem RearrangedMembers.rel_member? {members others : List (String × Json)}
    (hnodup : (keys members).Nodup) (h : RearrangedMembers members others) (key : String) :
    Option.Rel Rearranged (member? key members) (member? key others) := by
  obtain ⟨middle, hmiddle, hperm⟩ := h
  rw [hmiddle.keys_eq] at hnodup
  rw [← member?_perm hnodup hperm]
  exact hmiddle.rel_member? key

end Json
end SensorLink
