import Mathlib.Data.List.Forall2
import Mathlib.Data.List.Perm.Subperm
import StateMachine.Model.Transition
import StateMachine.Proofs.Definite

/-!
# Values that are alike

A description holds values in which the members of each object have different names
(`Value.Keyed`). Among these, to be alike is an equivalence (`Keyed.alike_self`,
`Keyed.alike_symm`, `Keyed.alike_trans`): the number that is none is like itself, though it
does not equal itself. So to be the same is an equivalence of signatures with such values
(`Signature.Plain`), and it divides transitions into groups.
-/

namespace StateMachine

/-! ## Lists compared one by one -/

section Forall₂

variable {α : Type} {R : α → α → Prop} {xs ys zs : List α}

theorem forall₂_symm (h : List.Forall₂ R xs ys) (hR : ∀ x ∈ xs, ∀ y ∈ ys, R x y → R y x) :
    List.Forall₂ R ys xs := by
  induction h with
  | nil => exact .nil
  | cons hxy _ ih =>
    refine .cons (hR _ List.mem_cons_self _ List.mem_cons_self hxy) (ih fun x hx y hy => ?_)
    exact hR x (List.mem_cons_of_mem _ hx) y (List.mem_cons_of_mem _ hy)

theorem forall₂_trans (h : List.Forall₂ R xs ys) (h' : List.Forall₂ R ys zs)
    (hR : ∀ x ∈ xs, ∀ y z, R x y → R y z → R x z) : List.Forall₂ R xs zs := by
  induction h generalizing zs with
  | nil =>
    cases h'
    exact .nil
  | cons hxy _ ih =>
    cases h' with
    | cons hyz h' =>
      refine .cons (hR _ List.mem_cons_self _ _ hxy hyz) (ih h' fun x hx => ?_)
      exact hR x (List.mem_cons_of_mem _ hx)

end Forall₂

namespace Value

/-- The members of each object in the value have different names. -/
inductive Keyed : Value → Prop
  | null : Keyed .null
  | bool (b : Bool) : Keyed (.bool b)
  | int (i : Int) : Keyed (.int i)
  | float (x : Binary64) : Keyed (.float x)
  | str (s : String) : Keyed (.str s)
  | list {items : List Value} : (∀ v ∈ items, Keyed v) → Keyed (.list items)
  | object {members : List (String × Value)} : (members.map Prod.fst).Nodup →
      (∀ m ∈ members, Keyed m.2) → Keyed (.object members)

attribute [simp] Keyed.null Keyed.bool Keyed.int Keyed.float Keyed.str

@[simp]
theorem keyed_list_iff {items : List Value} : (Value.list items).Keyed ↔ ∀ v ∈ items, v.Keyed :=
  ⟨fun h => by cases h with | list h => exact h, .list⟩

@[simp]
theorem keyed_object_iff {members : List (String × Value)} :
    (Value.object members).Keyed ↔
      (members.map Prod.fst).Nodup ∧ ∀ m ∈ members, m.2.Keyed :=
  ⟨fun h => by cases h with | object hkeys h => exact ⟨hkeys, h⟩, fun h => .object h.1 h.2⟩

variable {u v w x : Value} {key : String}

theorem Keyed.get? (h : v.Keyed) (hx : v.get? key = some x) : x.Keyed := by
  cases h with
  | object _ hmembers => exact hmembers _ (mem_of_member?_eq hx)
  | _ => cases hx

theorem Keyed.getD (h : v.Keyed) {default : Value} (hdefault : default.Keyed) :
    (v.getD key default).Keyed := by
  rw [Value.getD]
  cases hx : v.get? key with
  | none => exact hdefault
  | some x => exact h.get? hx

/-! ## Lists and objects -/

theorem sameItems_iff {xs ys : List Value} :
    sameItems xs ys = true ↔ List.Forall₂ (fun x y => x.alike y = true) xs ys := by
  induction xs generalizing ys with
  | nil => cases ys <;> simp [sameItems]
  | cons x xs ih =>
    cases ys with
    | nil => simp [sameItems]
    | cons y ys =>
      rw [sameItems, Bool.and_eq_true, ih, List.forall₂_cons]
      rfl

theorem list_alike_iff {xs : List Value} : (Value.list xs).alike w = true ↔
    ∃ ys, w = .list ys ∧ List.Forall₂ (fun x y => x.alike y = true) xs ys := by
  have hnan : (Value.list xs).isNaN = false := rfl
  rw [alike, hnan, Bool.false_and, Bool.false_or]
  cases w with
  | list ys => simp [same, sameItems_iff]
  | _ => simp [same]

theorem object_alike_iff {ms : List (String × Value)} : (Value.object ms).alike w = true ↔
    ∃ ns, w = .object ns ∧ ms.length = ns.length ∧
      ∀ m ∈ ms, ∃ y, member? m.1 ns = some y ∧ m.2.alike y = true := by
  have hnan : (Value.object ms).isNaN = false := rfl
  rw [alike, hnan, Bool.false_and, Bool.false_or]
  cases w with
  | object ns => simp [same, sameMembers_iff]
  | _ => simp [same]

/-- Of two lists of members with different names, equally many, the second has no names but
    those of the first, if it has all of these. -/
theorem mem_names_of_forall {ms ns : List (String × Value)} (hkeys : (ms.map Prod.fst).Nodup)
    (hlength : ms.length = ns.length) (h : ∀ m ∈ ms, (member? m.1 ns).isSome = true)
    {n : String × Value} (hn : n ∈ ns) : n.1 ∈ ms.map Prod.fst := by
  have hsub : ms.map Prod.fst ⊆ ns.map Prod.fst := by
    intro k hk
    obtain ⟨m, hm, rfl⟩ := List.mem_map.1 hk
    exact isSome_member?.1 (h m hm)
  have hperm := (hkeys.subperm hsub).perm_of_length_le (by simp [hlength])
  exact hperm.mem_iff.2 (List.mem_map_of_mem hn)

/-! ## An equivalence -/

theorem Keyed.alike_self (h : v.Keyed) : v.alike v = true := by
  induction h with
  | null | bool b | int i | float x | str s => exact Value.alike_self rfl
  | @list items _ ih => exact list_alike_iff.2 ⟨items, rfl, List.forall₂_same.2 ih⟩
  | @object members hkeys _ ih =>
    exact object_alike_iff.2
      ⟨members, rfl, rfl, fun m hm => ⟨m.2, member?_of_mem hkeys hm, ih m hm⟩⟩

theorem Keyed.alike_symm (hv : v.Keyed) (hw : w.Keyed) (h : v.alike w = true) :
    w.alike v = true := by
  induction hv generalizing w with
  | null | bool b | int i | float x | str s =>
    have hkey : w.isKey = true := (isKey_congr h).symm
    rwa [Value.alike_comm hkey rfl]
  | @list xs _ ih =>
    obtain ⟨ys, rfl, hys⟩ := list_alike_iff.1 h
    have hkeyed := keyed_list_iff.1 hw
    exact list_alike_iff.2
      ⟨xs, rfl, forall₂_symm hys fun x hx y hy hxy => ih x hx (hkeyed y hy) hxy⟩
  | @object ms hkeys _ ih =>
    obtain ⟨ns, rfl, hlength, hns⟩ := object_alike_iff.1 h
    obtain ⟨hkeys', hkeyed⟩ := keyed_object_iff.1 hw
    refine object_alike_iff.2 ⟨ms, rfl, hlength.symm, fun n hn => ?_⟩
    -- the name of `n` is that of a member on the other side, whose like is `n` itself
    have hname : n.1 ∈ ms.map Prod.fst := mem_names_of_forall hkeys hlength (fun m hm => by
      obtain ⟨y, hy, -⟩ := hns m hm
      exact Option.isSome_of_eq_some hy) hn
    obtain ⟨m, hm, hmn⟩ := List.mem_map.1 hname
    obtain ⟨y, hy, halike⟩ := hns m hm
    rw [hmn, member?_of_mem hkeys' hn] at hy
    cases hy
    refine ⟨m.2, ?_, ih m hm (hkeyed n hn) halike⟩
    rw [← hmn]
    exact member?_of_mem hkeys hm

theorem Keyed.alike_trans (hu : u.Keyed) (huv : u.alike v = true) (hvw : v.alike w = true) :
    u.alike w = true := by
  induction hu generalizing v w with
  | null | bool b | int i | float x | str s =>
    have hv : v.isKey = true := (isKey_congr huv).symm
    have hw : w.isKey = true := (isKey_congr hvw).symm.trans hv
    exact Value.alike_trans rfl hv hw huv hvw
  | @list xs _ ih =>
    obtain ⟨ys, rfl, hys⟩ := list_alike_iff.1 huv
    obtain ⟨zs, rfl, hzs⟩ := list_alike_iff.1 hvw
    exact list_alike_iff.2
      ⟨zs, rfl, forall₂_trans hys hzs fun x hx y z hxy hyz => ih x hx hxy hyz⟩
  | @object ms hkeys _ ih =>
    obtain ⟨ns, rfl, hlength, hns⟩ := object_alike_iff.1 huv
    obtain ⟨os, rfl, hlength', hos⟩ := object_alike_iff.1 hvw
    refine object_alike_iff.2 ⟨os, rfl, hlength.trans hlength', fun m hm => ?_⟩
    obtain ⟨y, hy, hmy⟩ := hns m hm
    obtain ⟨z, hz, hyz⟩ := hos _ (mem_of_member?_eq hy)
    exact ⟨z, hz, ih m hm hmy hyz⟩

end Value

/-! ## Signatures -/

theorem sameParameters_iff {ps qs : List (Value × Value)} : sameParameters ps qs = true ↔
    List.Forall₂ (fun p q => p.1.alike q.1 = true ∧ p.2.alike q.2 = true) ps qs := by
  induction ps generalizing qs with
  | nil => cases qs <;> simp [sameParameters]
  | cons p ps ih =>
    cases qs with
    | nil => simp [sameParameters]
    | cons q qs => simp [sameParameters, ih]

namespace Signature

/-- The name is a text, and the parameters are told from each other by values in which the
    members of each object have different names. -/
structure Plain (a : Signature) : Prop where
  name : a.name.isText = true
  parameters : ∀ p ∈ a.parameters, p.1.Keyed ∧ p.2.Keyed

variable {a b c : Signature}

theorem Plain.same_iff (ha : a.Plain) : a.same b = true ↔ a.name = b.name ∧
    List.Forall₂ (fun p q => p.1.alike q.1 = true ∧ p.2.alike q.2 = true)
      a.parameters b.parameters := by
  have hname : ∀ v : Value, (a.name == v) = true ↔ a.name = v := by
    intro v
    have htext := ha.name
    cases hs : a.name with
    | str s =>
      change (Value.str s).same v = true ↔ _
      cases v <;> simp [Value.same]
    | _ =>
      rw [hs] at htext
      cases htext
  rw [same, Bool.and_eq_true, hname, sameParameters_iff]

/-- A signature is the same as itself. -/
theorem Plain.same_self (ha : a.Plain) : a.same a = true :=
  ha.same_iff.2 ⟨rfl, List.forall₂_same.2 fun p hp =>
    ⟨(ha.parameters p hp).1.alike_self, (ha.parameters p hp).2.alike_self⟩⟩

theorem Plain.same_symm (ha : a.Plain) (hb : b.Plain) (h : a.same b = true) : b.same a = true := by
  obtain ⟨hname, hparameters⟩ := ha.same_iff.1 h
  refine hb.same_iff.2 ⟨hname.symm, forall₂_symm hparameters fun p hp q hq hpq => ?_⟩
  obtain ⟨hp₁, hp₂⟩ := ha.parameters p hp
  obtain ⟨hq₁, hq₂⟩ := hb.parameters q hq
  exact ⟨hp₁.alike_symm hq₁ hpq.1, hp₂.alike_symm hq₂ hpq.2⟩

theorem Plain.same_trans (ha : a.Plain) (hb : b.Plain) (hab : a.same b = true)
    (hbc : b.same c = true) : a.same c = true := by
  obtain ⟨hname, hparameters⟩ := ha.same_iff.1 hab
  obtain ⟨hname', hparameters'⟩ := hb.same_iff.1 hbc
  refine ha.same_iff.2 ⟨hname.trans hname', forall₂_trans hparameters hparameters' ?_⟩
  intro p hp q r hpq hqr
  obtain ⟨hp₁, hp₂⟩ := ha.parameters p hp
  exact ⟨hp₁.alike_trans hpq.1 hqr.1, hp₂.alike_trans hpq.2 hqr.2⟩

end Signature
end StateMachine
