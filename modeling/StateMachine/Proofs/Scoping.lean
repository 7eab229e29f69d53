import StateMachine.Proofs.Dispatching
import StateMachine.Proofs.Keys

/-!
# Scoped names

A name of a state is understood in two ways. The check of a machine cuts it at
the last scope mark and looks for the state in the map named before it; a
running machine scopes the name and looks for the state by its scoped name.

* The name of a state that the check finds is scoped to that of the state
  (`scopeName_of_findState?`), and so a state is found by it (`exists_stateNamed`).
* It is the very same state if the maps have different names, the states of
  each map have different names, and these hold no colon
  (`Unambiguous.stateNamed`).
-/

namespace StateMachine

/-! ## Cutting -/

namespace Text

/-- A text that is cut is what it is cut into, with the separator between. -/
theorem cutFirst_eq_some {sep cs l r : List Char} (h : cutFirst sep cs = some (l, r)) :
    cs = l ++ sep ++ r := by
  induction cs generalizing l with
  | nil => cases h
  | cons c cs ih =>
    rw [cutFirst] at h
    split at h
    · next hsep =>
      cases h
      obtain ⟨rest, hrest⟩ := List.isPrefixOf_iff_prefix.1 hsep
      rw [← hrest, List.drop_left]
      rfl
    · obtain ⟨⟨l', r'⟩, hcut, hlr⟩ := Option.map_eq_some_iff.1 h
      cases hlr
      rw [ih hcut]
      rfl

/-- A text in which the separator occurs can be cut. -/
theorem isSome_cutFirst {sep : List Char} (hsep : sep ≠ []) (l r : List Char) :
    (cutFirst sep (l ++ sep ++ r)).isSome = true := by
  induction l with
  | nil =>
    obtain ⟨c, cs, rfl⟩ := List.exists_cons_of_ne_nil hsep
    have hprefix : (c :: cs).isPrefixOf (c :: (cs ++ r)) = true :=
      List.isPrefixOf_iff_prefix.2 (List.prefix_append (c :: cs) r)
    rw [List.nil_append, List.cons_append, cutFirst, if_pos hprefix]
    rfl
  | cons c l ih =>
    rw [List.cons_append, List.cons_append, cutFirst]
    split
    · rfl
    · rw [Option.isSome_map]
      exact ih

/-- A text is cut where the separator's first character is first met, if the separator
    is there. -/
theorem cutFirst_append {x : Char} (sep : List Char) {l : List Char} (hl : x ∉ l)
    (r : List Char) : cutFirst (x :: sep) (l ++ x :: sep ++ r) = some (l, r) := by
  induction l with
  | nil =>
    have hprefix : (x :: sep).isPrefixOf (x :: (sep ++ r)) = true :=
      List.isPrefixOf_iff_prefix.2 (List.prefix_append (x :: sep) r)
    rw [List.nil_append, List.cons_append, cutFirst, if_pos hprefix]
    simp
  | cons c l ih =>
    obtain ⟨hc, hl⟩ := not_or.1 (mt List.mem_cons.2 hl)
    have hprefix : ¬(x :: sep).isPrefixOf (c :: (l ++ x :: sep ++ r)) = true := by
      simp [List.isPrefixOf, hc]
    rw [List.cons_append, List.cons_append, cutFirst, if_neg hprefix, ih hl]
    rfl

/-- Cutting at the last separator is possible where one occurs. -/
theorem isSome_cutLast (sep cs : List Char) (hsep : sep ≠ []) :
    (cutLast sep cs).isSome = (cutFirst sep cs).isSome := by
  rw [cutLast, Option.isSome_map, Bool.eq_iff_iff]
  constructor
  · intro h
    obtain ⟨⟨l, r⟩, hcut⟩ := Option.isSome_iff_exists.1 h
    have hcs : cs = r.reverse ++ sep ++ l.reverse := by
      have := congrArg List.reverse (cutFirst_eq_some hcut)
      simpa using this
    rw [hcs]
    exact isSome_cutFirst hsep _ _
  · intro h
    obtain ⟨⟨l, r⟩, hcut⟩ := Option.isSome_iff_exists.1 h
    have hcs : cs.reverse = r.reverse ++ sep.reverse ++ l.reverse := by
      have := congrArg List.reverse (cutFirst_eq_some hcut)
      simpa using this
    rw [hcs]
    exact isSome_cutFirst (by simpa using hsep) _ _

/-- A text is cut where the separator's last character is last met, if the separator is
    there. -/
theorem cutLast_append {x : Char} (sep l : List Char) {r : List Char} (hr : x ∉ r) :
    cutLast (sep ++ [x]) (l ++ (sep ++ [x]) ++ r) = some (l, r) := by
  have hcut := cutFirst_append sep.reverse (l := r.reverse) (by simpa using hr) l.reverse
  rw [List.append_assoc, List.cons_append] at hcut
  simp [cutLast, hcut]

/-- A text is what it is cut into at the last separator, with the separator
    between. -/
theorem cutLast_eq_some {sep cs l r : List Char} (h : cutLast sep cs = some (l, r)) :
    cs = l ++ sep ++ r := by
  obtain ⟨⟨r', l'⟩, hcut, hlr⟩ := Option.map_eq_some_iff.1 h
  cases hlr
  have hcs := congrArg List.reverse (cutFirst_eq_some hcut)
  simpa using hcs

/-- What is after the last mark holds none. -/
theorem not_mem_of_cutLast_eq_some {x : Char} {cs l r : List Char}
    (h : cutLast [x] cs = some (l, r)) : x ∉ r := by
  have hx : x ∈ cs.reverse := by simp [cutLast_eq_some h]
  obtain ⟨after, before, hcs, hafter⟩ := List.eq_append_cons_of_mem hx
  have hcut := cutLast_append [] before.reverse (r := after.reverse) (by simpa using hafter)
  rw [show before.reverse ++ ([] ++ [x]) ++ after.reverse = cs by
    simpa using (congrArg List.reverse hcs).symm, List.nil_append, h] at hcut
  cases hcut
  simpa using hafter

theorem cutLast?_eq_some {sep s a b : String} (h : cutLast? sep s = some (a, b)) :
    s = a ++ sep ++ b := by
  obtain ⟨⟨l, r⟩, hcut, hab⟩ := Option.map_eq_some_iff.1 h
  cases hab
  apply String.toList_inj.1
  simpa using cutLast_eq_some hcut

end Text

/-- A name without a scope is one that cannot be cut. -/
theorem contains_scopeMark (name : String) :
    Text.contains scopeMark name = (Text.cutLast? scopeMark name).isSome := by
  rw [Text.contains, Text.occursIn, Text.cutLast?, Option.isSome_map,
    Text.isSome_cutLast _ _ (by decide)]

/-- A scoped name is cut into the names of the map and of the state, if the latter
    holds no colon. -/
theorem cutLast?_scoped {a b : String} (hb : ':' ∉ b.toList) :
    Text.cutLast? scopeMark (a ++ scopeMark ++ b) = some (a, b) := by
  have hcut := Text.cutLast_append (x := ':') [':'] a.toList hb
  have hmark : scopeMark.toList = [':'] ++ [':'] := rfl
  rw [Text.cutLast?, String.toList_append, String.toList_append, hmark, hcut]
  simp

/-! ## Looking for states -/

namespace Machine

variable {m : Machine} {map : StateMap} {name : String} {p q : Place}

/-- A state of the machine is found by its scoped name, or another one of this
    scoped name is. -/
theorem exists_stateNamed (hp : p ∈ m.places) : ∃ q, m.stateNamed? p.scopedName = some q := by
  refine Option.isSome_iff_exists.1 (List.find?_isSome.2 ⟨p, List.mem_reverse.2 hp, ?_⟩)
  exact beq_self_eq_true _

theorem inMap?_eq_some (h : inMap? map name = some p) :
    p.map = map ∧ p.state ∈ map.states ∧ p.state.name = name := by
  obtain ⟨s, hs, rfl⟩ := Option.map_eq_some_iff.1 h
  exact ⟨rfl, List.mem_of_find?_eq_some hs, by simpa using List.find?_some hs⟩

theorem mem_places_of_inMap? (hmap : map ∈ m.maps) (h : inMap? map name = some p) :
    p ∈ m.places := by
  obtain ⟨hp, hs, -⟩ := inMap?_eq_some h
  exact mem_places.2 ⟨hp ▸ hmap, hp ▸ hs⟩

/-- A state that a name means is one of the machine. -/
theorem mem_places_of_findState? {current : Option StateMap}
    (hcurrent : ∀ map, current = some map → map ∈ m.maps)
    (h : m.findState? name current = some p) : p ∈ m.places := by
  rw [findState?] at h
  split at h
  · obtain ⟨map, hmap, h⟩ := Option.bind_eq_some_iff.1 h
    exact mem_places_of_inMap? (List.mem_of_find?_eq_some hmap) h
  · obtain ⟨map, hmap, h⟩ := Option.bind_eq_some_iff.1 h
    exact mem_places_of_inMap? (hcurrent map hmap) h

/-- The state a machine starts in is one of the machine. -/
theorem mem_places_of_startPlace? (h : m.startPlace? = some p) : p ∈ m.places := by
  rw [startPlace?] at h
  split at h
  · split at h
    · cases h
    · rw [findStart?] at h
      split at h
      · exact mem_places_of_findState? (fun _ h => by cases h) h
      · obtain ⟨map, hmap, h⟩ := List.exists_of_findSome?_eq_some h
        exact mem_places_of_inMap? hmap h
  · cases h

/-- A name that means a state in a map is scoped to the state's scoped name. -/
theorem scopeName_of_findState? (h : m.findState? name (some map) = some p) :
    scopeName name map.name.text = p.scopedName := by
  rw [findState?] at h
  rw [scopeName, contains_scopeMark]
  cases hcut : Text.cutLast? scopeMark name with
  | none =>
    rw [hcut] at h
    obtain ⟨hp, hs, hname⟩ := inMap?_eq_some h
    rw [Place.scopedName, StateMap.scopedName, hp, hname]
    rfl
  | some names =>
    obtain ⟨mapName, stateName⟩ := names
    rw [hcut] at h
    obtain ⟨map', hmap', h⟩ := Option.bind_eq_some_iff.1 h
    obtain ⟨hp, hs, hname⟩ := inMap?_eq_some h
    have hmapName : map'.name = .str mapName := by
      have := List.find?_some hmap'
      exact Value.beq_str_iff.1 this
    rw [Place.scopedName, StateMap.scopedName, hp, hname, hmapName]
    exact Text.cutLast?_eq_some hcut

/-- The maps have different texts as names, and so have the states of each map;
    these hold no colon. -/
structure Unambiguous (m : Machine) : Prop where
  mapNames : ∃ names : List String, m.maps.map StateMap.name = names.map .str ∧ names.Nodup
  stateNames : ∀ map ∈ m.maps, (map.states.map State.name).Nodup
  colon : ∀ map ∈ m.maps, ∀ s ∈ map.states, ':' ∉ s.name.toList

/-- Then a scoped name belongs to one state only. -/
theorem Unambiguous.eq_of_scopedName (h : m.Unambiguous) (hp : p ∈ m.places) (hq : q ∈ m.places)
    (hname : p.scopedName = q.scopedName) : p = q := by
  obtain ⟨hpmap, hpstate⟩ := mem_places.1 hp
  obtain ⟨hqmap, hqstate⟩ := mem_places.1 hq
  have hcut : some (p.map.name.text, p.state.name) = some (q.map.name.text, q.state.name) := by
    rw [← cutLast?_scoped (h.colon _ hpmap _ hpstate), ← cutLast?_scoped (h.colon _ hqmap _ hqstate)]
    exact congrArg (Text.cutLast? scopeMark) hname
  obtain ⟨hmapName, hstateName⟩ := Prod.mk.inj (Option.some.inj hcut)
  have hmaps : (m.maps.map fun map => map.name.text).Nodup := by
    obtain ⟨names, hnames, hnodup⟩ := h.mapNames
    have htexts := congrArg (List.map Value.text) hnames
    rw [List.map_map, List.map_map] at htexts
    change m.maps.map (fun map => map.name.text) = names.map id at htexts
    rwa [htexts, List.map_id]
  have hmap : p.map = q.map := by
    have hfind := find?_of_nodup hmaps hpmap
    rw [hmapName, find?_of_nodup hmaps hqmap] at hfind
    exact (Option.some.inj hfind).symm
  have hstate : p.state = q.state := by
    have hnames := h.stateNames _ hqmap
    have hfind := find?_of_nodup hnames (hmap ▸ hpstate)
    rw [hstateName, find?_of_nodup hnames hqstate] at hfind
    exact (Option.some.inj hfind).symm
  obtain ⟨map, s⟩ := p
  obtain ⟨map', s'⟩ := q
  cases hmap
  cases hstate
  rfl

/-- Then a state is found by its scoped name. -/
theorem Unambiguous.stateNamed (h : m.Unambiguous) (hp : p ∈ m.places) :
    m.stateNamed? p.scopedName = some p := by
  obtain ⟨q, hq⟩ := exists_stateNamed hp
  obtain ⟨hqplace, hqname⟩ := stateNamed?_eq_some hq
  rw [hq, h.eq_of_scopedName hqplace hp hqname]

end Machine
end StateMachine
