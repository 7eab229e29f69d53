import StateMachine.Proofs.Keys

/-!
# Definite values

A value is *definite* (`Value.Definite`) if nothing in it is the number that is
none, and no object in it has two members of one name. Such a value equals
itself (`same_self`).

Two values that are equal, the first of them definite, cannot be told apart by
what is asked of them: both count as set or neither does, they have the same
members (`exists_get?_right`, `exists_get?_left`), and a walk through them meets
equal things (`exists_elements_left`).
-/

namespace StateMachine.Value

/-- Nothing in the value is the number that is none, and the members of its objects
    have different names. -/
inductive Definite : Value → Prop
  | null : Definite .null
  | bool (b : Bool) : Definite (.bool b)
  | int (i : Int) : Definite (.int i)
  | float {x : Binary64} : x ≠ .nan → Definite (.float x)
  | str (s : String) : Definite (.str s)
  | list {items : List Value} : (∀ v ∈ items, Definite v) → Definite (.list items)
  | object {members : List (String × Value)} : (members.map Prod.fst).Nodup →
      (∀ m ∈ members, Definite m.2) → Definite (.object members)

attribute [simp] Definite.null Definite.bool Definite.int Definite.str

@[simp]
theorem definite_list_iff {items : List Value} :
    (Value.list items).Definite ↔ ∀ v ∈ items, v.Definite :=
  ⟨fun h => by cases h with | list h => exact h, .list⟩

@[simp]
theorem definite_object_iff {members : List (String × Value)} :
    (Value.object members).Definite ↔
      (members.map Prod.fst).Nodup ∧ ∀ m ∈ members, m.2.Definite :=
  ⟨fun h => by cases h with | object hkeys h => exact ⟨hkeys, h⟩, fun h => .object h.1 h.2⟩

variable {v w x y : Value} {key : String}

/-! ## Members and items -/

theorem mem_of_member?_eq {members : List (String × Value)} (h : member? key members = some x) :
    (key, x) ∈ members := by
  induction members with
  | nil => cases h
  | cons m ms ih =>
    rw [member?] at h
    split at h
    · next hkey =>
      cases h
      exact hkey ▸ List.mem_cons_self
    · exact List.mem_cons_of_mem _ (ih h)

theorem isSome_member? {members : List (String × Value)} :
    (member? key members).isSome = true ↔ key ∈ members.map Prod.fst := by
  induction members with
  | nil => simp [member?]
  | cons m ms ih =>
    rw [member?, List.map_cons, List.mem_cons, ← ih]
    by_cases hkey : m.1 = key
    · simp [hkey]
    · simp [hkey, Ne.symm hkey]

theorem member?_of_mem {members : List (String × Value)} (hkeys : (members.map Prod.fst).Nodup)
    (h : (key, x) ∈ members) : member? key members = some x := by
  induction members with
  | nil => cases h
  | cons m ms ih =>
    rw [List.map_cons, List.nodup_cons] at hkeys
    rw [member?]
    rcases List.mem_cons.1 h with rfl | h
    · rw [if_pos rfl]
    · have hne : m.1 ≠ key := fun hkey => hkeys.1 (hkey ▸ List.mem_map_of_mem h)
      rw [if_neg hne, ih hkeys.2 h]

theorem sameMembers_iff {ms ns : List (String × Value)} :
    sameMembers ms ns = true ↔ ∀ m ∈ ms, ∃ w, member? m.1 ns = some w ∧ m.2.alike w = true := by
  induction ms with
  | nil => simp [sameMembers]
  | cons m ms ih =>
    rw [sameMembers, Bool.and_eq_true, ih, List.forall_mem_cons]
    refine and_congr_left fun _ => ?_
    cases member? m.1 ns <;> simp [alike]

theorem sameItems_self {items : List Value} (h : ∀ v ∈ items, v.alike v = true) :
    sameItems items items = true := by
  induction items with
  | nil => rfl
  | cons v vs ih =>
    obtain ⟨hv, hvs⟩ := List.forall_mem_cons.1 h
    rw [sameItems, Bool.and_eq_true]
    exact ⟨hv, ih hvs⟩

theorem exists_alike_of_sameItems {xs ys : List Value} (h : sameItems xs ys = true) (hy : y ∈ ys) :
    ∃ x ∈ xs, x.alike y = true := by
  induction ys generalizing xs with
  | nil => cases hy
  | cons z ys ih =>
    cases xs with
    | nil => cases h
    | cons x xs =>
      rw [sameItems, Bool.and_eq_true] at h
      rcases List.mem_cons.1 hy with rfl | hy
      · exact ⟨x, List.mem_cons_self, h.1⟩
      · obtain ⟨x', hx', halike⟩ := ih h.2 hy
        exact ⟨x', List.mem_cons_of_mem x hx', halike⟩

theorem length_eq_of_sameItems {xs ys : List Value} (h : sameItems xs ys = true) :
    xs.length = ys.length := by
  induction xs generalizing ys with
  | nil =>
    cases ys with
    | nil => rfl
    | cons y ys => cases h
  | cons x xs ih =>
    cases ys with
    | nil => cases h
    | cons y ys =>
      rw [sameItems, Bool.and_eq_true] at h
      rw [List.length_cons, List.length_cons, ih h.2]

/-! ## Definite values -/

theorem alike_of_same (h : v.same w = true) : v.alike w = true := by
  rw [alike, h, Bool.or_true]

/-- A definite value equals itself. -/
theorem same_self (h : v.Definite) : v.same v = true := by
  induction h with
  | null => rfl
  | bool b => exact (beq_iff_meaning? rfl).2 ⟨_, rfl, rfl⟩
  | int i => exact (beq_iff_meaning? rfl).2 ⟨_, rfl, rfl⟩
  | @float x hx =>
    refine (beq_iff_meaning? rfl).2 ?_
    cases x with
    | finite negative m e => exact ⟨_, rfl, rfl⟩
    | infinite negative => exact ⟨_, rfl, rfl⟩
    | nan => exact absurd rfl hx
  | str s => simp [same]
  | list _ ih =>
    rw [same]
    exact sameItems_self fun v hv => alike_of_same (ih v hv)
  | object hkeys _ ih =>
    rw [same, Bool.and_eq_true, beq_iff_eq, sameMembers_iff]
    exact ⟨rfl, fun m hm => ⟨m.2, member?_of_mem hkeys hm, alike_of_same (ih m hm)⟩⟩

theorem Definite.get? (h : v.Definite) (hx : v.get? key = some x) : x.Definite := by
  cases h with
  | object _ hmembers => exact hmembers _ (mem_of_member?_eq hx)
  | _ => cases hx

/-- A walk through a value meets the items of a list, and otherwise nothing but texts. -/
theorem of_mem_elements {P : Value → Prop} {items : List Value} (hstr : ∀ s, P (.str s))
    (hlist : ∀ xs, v = .list xs → ∀ x ∈ xs, P x) (hitems : v.elements = .ok items)
    (hx : x ∈ items) : P x := by
  cases v with
  | list xs =>
    cases hitems
    exact hlist items rfl x hx
  | str s =>
    cases hitems
    obtain ⟨c, -, rfl⟩ := List.mem_map.1 hx
    exact hstr _
  | object members =>
    cases hitems
    obtain ⟨m, -, rfl⟩ := List.mem_map.1 hx
    exact hstr _
  | _ => cases hitems

theorem Definite.elements {items : List Value} (h : v.Definite) (hitems : v.elements = .ok items)
    (hx : x ∈ items) : x.Definite :=
  of_mem_elements .str (fun _ hv => definite_list_iff.1 (hv ▸ h)) hitems hx

/-! ## Values that are alike -/

/-- Values that are equal both count as set, or neither does. -/
theorem isSet_eq_of_same (h : v.same w = true) : v.isSet = w.isSet := by
  have hnumber : ∀ {v : Value}, v.sameNumber w = true → v.isSet = w.isSet := by
    intro v h
    rw [sameNumber] at h
    split at h
    · next a b ha hb =>
      -- the numbers have the same meaning, so both are zero or neither is
      obtain ⟨k, hk, hk'⟩ := (Number.same_iff a b).1 h
      have hzero : a.same (.int 0) = b.same (.int 0) := by
        rw [Bool.eq_iff_iff, Number.same_iff, Number.same_iff, hk, hk']
      rw [isSet_of_number ha, isSet_of_number hb, hzero]
    · cases h
  cases v with
  | null => cases w <;> first | rfl | cases h
  | bool b => rw [same] at h; exact hnumber h
  | int i => rw [same] at h; exact hnumber h
  | float x => rw [same] at h; exact hnumber h
  | str s =>
    cases w with
    | str t =>
      rw [same, beq_iff_eq] at h
      rw [h]
    | _ => cases h
  | list xs =>
    cases w with
    | list ys =>
      have hlength := length_eq_of_sameItems h
      cases xs <;> cases ys <;> first | rfl | cases hlength
    | _ => cases h
  | object ms =>
    cases w with
    | object ns =>
      rw [same, Bool.and_eq_true, beq_iff_eq] at h
      have hlength := h.1
      cases ms <;> cases ns <;> first | rfl | cases hlength
    | _ => cases h

theorem Definite.same_of_alike (hv : v.Definite) (h : v.alike w = true) : v.same w = true := by
  rw [alike, Bool.or_eq_true, Bool.and_eq_true] at h
  refine h.elim (fun hnan => ?_) fun h => h
  cases hv with
  | @float x hx =>
    cases x with
    | nan => exact absurd rfl hx
    | _ => cases hnan.1
  | _ => cases hnan.1

/-- What a definite value has as a member, a value that equals it has as well. -/
theorem exists_get?_right (hv : v.Definite) (h : v.same w = true) (hx : v.get? key = some x) :
    ∃ y, w.get? key = some y ∧ x.same y = true := by
  cases hv with
  | @object ms hkeys hms =>
    cases w with
    | object ns =>
      rw [same, Bool.and_eq_true, sameMembers_iff] at h
      have hmem := mem_of_member?_eq hx
      obtain ⟨y, hy, halike⟩ := h.2 _ hmem
      exact ⟨y, hy, (hms _ hmem).same_of_alike halike⟩
    | _ => cases h
  | _ => cases hx

/-- What a value has as a member, a definite value that equals it has as well. -/
theorem exists_get?_left (hv : v.Definite) (h : v.same w = true) (hy : w.get? key = some y) :
    ∃ x, v.get? key = some x ∧ x.same y = true := by
  cases w with
  | object ns =>
    cases hv with
    | @object ms hkeys hms =>
      have hsame := h
      rw [same, Bool.and_eq_true, beq_iff_eq, sameMembers_iff] at h
      -- a name among the others only would make them one more
      have hkey : key ∈ ms.map Prod.fst := by
        refine Classical.byContradiction fun hkey => ?_
        have hsub : key :: ms.map Prod.fst ⊆ ns.map Prod.fst := by
          refine List.cons_subset.2 ⟨isSome_member?.1 (Option.isSome_of_eq_some hy), ?_⟩
          intro k hk
          obtain ⟨m, hm, rfl⟩ := List.mem_map.1 hk
          obtain ⟨z, hz, -⟩ := h.2 m hm
          exact isSome_member?.1 (Option.isSome_of_eq_some hz)
        have hlength := (List.nodup_cons.2 ⟨hkey, hkeys⟩).length_le_of_subset hsub
        simp only [List.length_cons, List.length_map, h.1] at hlength
        omega
      obtain ⟨x, hx⟩ := Option.isSome_iff_exists.1 (isSome_member?.2 hkey)
      obtain ⟨y', hy', hxy⟩ := exists_get?_right (.object hkeys hms) hsame hx
      rw [hy] at hy'
      cases hy'
      exact ⟨x, hx, hxy⟩
    | _ => cases h
  | _ => cases hy

/-- What a walk through a value meets, a walk through a definite value that equals it
    meets as well. -/
theorem exists_elements_left {items : List Value} (hv : v.Definite) (h : v.same w = true)
    (hitems : w.elements = .ok items) :
    ∃ items', v.elements = .ok items' ∧ ∀ y ∈ items, ∃ x ∈ items', x.same y = true := by
  cases w with
  | list ys =>
    cases hv with
    | @list xs hxs =>
      cases hitems
      refine ⟨xs, rfl, fun y hy => ?_⟩
      obtain ⟨x, hx, halike⟩ := exists_alike_of_sameItems h hy
      exact ⟨x, hx, (hxs x hx).same_of_alike halike⟩
    | _ => cases h
  | str t =>
    obtain rfl := beq_str_iff.1 h
    exact ⟨items, hitems, fun y hy => ⟨y, hy, same_self (hv.elements hitems hy)⟩⟩
  | object ns =>
    cases hv with
    | @object ms hkeys hms =>
      cases hitems
      refine ⟨_, rfl, fun y hy => ?_⟩
      obtain ⟨n, hn, rfl⟩ := List.mem_map.1 hy
      have hkey : (member? n.1 ns).isSome = true := isSome_member?.2 (List.mem_map_of_mem hn)
      obtain ⟨z, hz⟩ := Option.isSome_iff_exists.1 hkey
      obtain ⟨x, hx, -⟩ := exists_get?_left (.object hkeys hms) h hz
      exact ⟨.str n.1, List.mem_map.2 ⟨_, mem_of_member?_eq hx, rfl⟩, same_self (.str _)⟩
    | _ => cases h
  | _ => cases hitems

end StateMachine.Value
