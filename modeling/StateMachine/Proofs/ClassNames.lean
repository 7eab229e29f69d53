import Mathlib.Data.List.Nodup
import StateMachine.Proofs.Dispatching
import StateMachine.Proofs.Layout
import StateMachine.Generate.PythonModule

/-!
# The names of classes

The classes of a module are named by their origin: the base class and the context
class after the class of the owner, the holder of a map after the map, and the
class of a state after its map and itself, with an underscore between. As names may
hold underscores themselves, two classes can come to the same name, and the later
one takes the place of the earlier one.

`Machine.ClassNamesApart` lists what must not be; `class_names_distinct_iff` shows
that there is nothing else. In particular, all is well if the names of the maps, the
base class and the context class are different and none of them begins with the
name of a map and an underscore.
-/

namespace StateMachine

/-! ## Classes by name -/

/-- The names of the classes of a map and of its holder, as they are written down. -/
def MapClasses.classNames (m : MapClasses) : List String :=
  m.classes.map StateClass.name ++ [m.name]

/-- The names of all classes, as they are written down. -/
def ClassTable.classNames (t : ClassTable) : List String :=
  t.base :: (t.maps.flatMap MapClasses.classNames ++ [t.contextClass])

/-- The names of the classes do not depend on where the machine starts. -/
theorem ClassTable.classNames_start (m : Machine) (o : Options) (start start' : Place) :
    (m.classTable o start).classNames = (m.classTable o start').classNames :=
  rfl

/-- Every class has the line that begins its definition. -/
theorem PythonModule.exists_class_line {m : Machine} {o : Options} {start : Place} {name : String}
    (h : name ∈ (m.classTable o start).classNames) :
    ∃ rest, "class " ++ name ++ "(" ++ rest ∈ lines m o start := by
  suffices hclass : ∃ rest, "class " ++ name ++ "(" ++ rest ∈
      classLines (.ofOptions o) (m.classTable o start) by
    obtain ⟨rest, hline⟩ := hclass
    exact ⟨rest, List.mem_append_left _ (List.mem_append_right _ hline)⟩
  rw [ClassTable.classNames, List.mem_cons, List.mem_append, List.mem_flatMap,
    List.mem_singleton] at h
  rw [classLines]
  rcases h with rfl | ⟨map, hmap, h⟩ | rfl
  · refine ⟨"statemap.State):", List.mem_append_left _ (List.mem_append_left _ ?_)⟩
    rw [String.append_assoc, baseClass]
    simp
  · rw [MapClasses.classNames, List.mem_append, List.mem_singleton] at h
    rcases h with h | rfl
    · obtain ⟨c, hc, rfl⟩ := List.mem_map.1 h
      refine ⟨c.parent ++ "):", List.mem_append_left _ (List.mem_append_right _ ?_)⟩
      refine List.mem_flatMap.2 ⟨map, hmap, List.mem_append_left _ ?_⟩
      refine List.mem_flatMap.2 ⟨c, hc, ?_⟩
      rw [← String.append_assoc, stateClass]
      simp
    · refine ⟨"object):", List.mem_append_left _ (List.mem_append_right _ ?_)⟩
      refine List.mem_flatMap.2 ⟨map, hmap, List.mem_append_right _ ?_⟩
      rw [String.append_assoc, holder]
      simp
  · refine ⟨"statemap.FSMContext):", List.mem_append_right _ ?_⟩
    rw [String.append_assoc, contextClass]
    simp

/-- The map has a class for a state of the name, or for its Default State. -/
def StateMap.HasClass (map : StateMap) (name : String) : Prop :=
  name = defaultName ∨ ∃ s ∈ map.states, s.name = name

/-- The map has a class of the name. -/
def StateMap.Takes (map : StateMap) (name : String) : Prop :=
  ∃ s, map.HasClass s ∧ name = map.name.text ++ "_" ++ s

/-- No class takes the name of another one. -/
structure Machine.ClassNamesApart (m : Machine) : Prop where
  context : m.className.text ≠ ClassTable.baseName m
  base_context : ∀ name ∈ [ClassTable.baseName m, m.className.text], ∀ map ∈ m.maps,
    name ≠ map.name.text ∧ ¬map.Takes name
  /-- No map is named like a class of a map. -/
  holders : ∀ map ∈ m.maps, ∀ map' ∈ m.maps, ¬map.Takes map'.name.text
  /-- If the name of a map begins with that of another one and an underscore, no state
      makes up for the difference. -/
  states : ∀ map ∈ m.maps, ∀ map' ∈ m.maps, ∀ rest, map'.name.text = map.name.text ++ "_" ++ rest →
    ∀ s, map'.HasClass s → ¬map.HasClass (rest ++ "_" ++ s)

namespace Text

/-- Two texts with different beginnings before an underscore are equal only if one of
    the beginnings is longer by an underscore and what the other one lacks. -/
theorem exists_rest_of_append_eq {a b c d : String} (h : a ++ "_" ++ b = c ++ "_" ++ d)
    (hne : a ≠ c) :
    (∃ rest, c = a ++ "_" ++ rest ∧ b = rest ++ "_" ++ d) ∨
      ∃ rest, a = c ++ "_" ++ rest ∧ d = rest ++ "_" ++ b := by
  have hone : ∀ {a b c d : String} {e : List Char}, a ≠ c → c.toList = a.toList ++ e →
      '_' :: b.toList = e ++ '_' :: d.toList →
      ∃ rest, c = a ++ "_" ++ rest ∧ b = rest ++ "_" ++ d := by
    intro a b c d e hne hc hb
    cases e with
    | nil => exact absurd (String.toList_inj.1 (by simpa using hc.symm)) hne
    | cons x e =>
      obtain ⟨rfl, hb⟩ := List.cons.inj hb
      refine ⟨String.ofList e, String.toList_inj.1 ?_, String.toList_inj.1 ?_⟩
      · simpa using hc
      · simpa using hb
  have hlist : a.toList ++ '_' :: b.toList = c.toList ++ '_' :: d.toList := by
    simpa using congrArg String.toList h
  obtain ⟨e, hc, hb⟩ | ⟨e, ha, hd⟩ := List.append_eq_append_iff.1 hlist
  · exact .inl (hone hne hc hb)
  · exact .inr (hone hne.symm ha hd)

theorem append_ne_self (a b : String) : a ++ "_" ++ b ≠ a := by
  intro h
  have hlength := congrArg (fun s : String => s.toList.length) h
  simp only [String.toList_append, List.length_append] at hlength
  have hmark : "_".toList.length = 1 := by decide
  omega

theorem append_right_inj {a b c : String} (h : a ++ "_" ++ b = a ++ "_" ++ c) : b = c := by
  have hlist := congrArg String.toList h
  simp only [String.toList_append, List.append_assoc, List.append_cancel_left_eq] at hlist
  exact String.toList_inj.1 hlist

end Text

namespace ClassTable

open Text

variable {m : Machine} {o : Options} {names : List Value} {index : StateIndex} {map map' : StateMap}
  {name : String}

theorem classNames_mapClasses : (mapClasses m o names index map).classNames =
    (defaultName :: map.states.map State.name).map (fun s => map.name.text ++ "_" ++ s)
      ++ [map.name.text] := by
  rw [MapClasses.classNames]
  simp only [mapClasses, List.map_cons, List.map_map]
  rfl

/-- The names of the classes of a map are those it takes, and that of the map. -/
theorem mem_classNames :
    name ∈ (mapClasses m o names index map).classNames ↔ map.Takes name ∨ name = map.name.text := by
  rw [classNames_mapClasses, List.mem_append, List.mem_singleton, List.mem_map, StateMap.Takes]
  refine or_congr_left (exists_congr fun s => ?_)
  rw [List.mem_cons, List.mem_map, StateMap.HasClass, eq_comm (a := name)]

/-- The classes of one map have different names, if its states have. -/
theorem nodup_classNames (hwf : map.WellFormed) (hstates : (map.states.map State.name).Nodup) :
    (mapClasses m o names index map).classNames.Nodup := by
  rw [classNames_mapClasses, List.nodup_append]
  refine ⟨List.Nodup.map (fun a b h => append_right_inj h) ?_, List.nodup_singleton _, ?_⟩
  · -- a real state is none that is named like the Default State
    refine List.nodup_cons.2 ⟨fun hmem => ?_, hstates⟩
    obtain ⟨s, hs, hname⟩ := List.mem_map.1 hmem
    have hreal := hwf.real s hs
    rw [State.isDefault, hname] at hreal
    exact absurd hreal (by decide)
  · intro name hname name' hname'
    obtain ⟨s, -, rfl⟩ := List.mem_map.1 hname
    rw [List.mem_singleton.1 hname']
    exact append_ne_self _ _

/-- The classes of two maps of different names have no name in common exactly if
    neither map takes the name of the other one, and no state makes up for what the
    name of its map lacks. -/
theorem disjoint_classNames (hne : map.name.text ≠ map'.name.text) :
    (mapClasses m o names index map).classNames.Disjoint (mapClasses m o names index map').classNames ↔
      (¬map.Takes map'.name.text ∧ ¬map'.Takes map.name.text) ∧
      (∀ rest, map'.name.text = map.name.text ++ "_" ++ rest → ∀ s, map'.HasClass s →
        ¬map.HasClass (rest ++ "_" ++ s)) ∧
      ∀ rest, map.name.text = map'.name.text ++ "_" ++ rest → ∀ s, map.HasClass s →
        ¬map'.HasClass (rest ++ "_" ++ s) := by
  simp only [List.Disjoint, mem_classNames]
  constructor
  · intro h
    refine ⟨⟨fun htakes => h (.inl htakes) (.inr rfl), fun htakes => h (.inr rfl) (.inl htakes)⟩,
      fun rest hrest s hs hlong => ?_, fun rest hrest s hs hlong => ?_⟩
    · exact h (.inl ⟨_, hlong, rfl⟩) (.inl ⟨s, hs, by rw [hrest]; simp only [String.append_assoc]⟩)
    · exact h (.inl ⟨s, hs, by rw [hrest]; simp only [String.append_assoc]⟩) (.inl ⟨_, hlong, rfl⟩)
  · rintro ⟨⟨hholder, hholder'⟩, hstates, hstates'⟩ name hname hname'
    rcases hname with ⟨s, hs, rfl⟩ | rfl
    · rcases hname' with ⟨s', hs', heq⟩ | heq
      · -- both are classes of states, so one map is named like the other with more after it
        obtain ⟨rest, hrest, rfl⟩ | ⟨rest, hrest, rfl⟩ := exists_rest_of_append_eq heq hne
        · exact hstates rest hrest s' hs' hs
        · exact hstates' rest hrest s hs hs'
      · exact hholder ⟨s, hs, heq.symm⟩
    · rcases hname' with htakes | heq
      · exact hholder' htakes
      · exact hne heq

/-- The classes of all maps have different names exactly if those of any two maps have. -/
theorem nodup_flatMap_classNames (hwf : m.WellFormed)
    (hmaps : (m.maps.map fun map => map.name.text).Nodup)
    (hstates : ∀ map ∈ m.maps, (map.states.map State.name).Nodup) :
    (m.maps.flatMap fun map => (mapClasses m o names index map).classNames).Nodup ↔
      ∀ map ∈ m.maps, ∀ map' ∈ m.maps, map ≠ map' →
        (mapClasses m o names index map).classNames.Disjoint
          (mapClasses m o names index map').classNames := by
  have hsymm : Std.Symm (Function.onFun List.Disjoint fun map : StateMap =>
      (mapClasses m o names index map).classNames) := ⟨fun _ _ h _ ha hb => h hb ha⟩
  rw [List.nodup_flatMap]
  constructor
  · rintro ⟨-, hpairs⟩ map hmap map' hmap' hne
    exact hpairs.forall hmap hmap' hne
  · intro hpairs
    refine ⟨fun map hmap => nodup_classNames (hwf map hmap) (hstates map hmap), ?_⟩
    exact hmaps.of_map.pairwise_of_forall_ne hpairs

/-- All classes have different names exactly if these are kept apart. -/
theorem nodup_classNames_iff (hwf : m.WellFormed)
    (hmaps : (m.maps.map fun map => map.name.text).Nodup)
    (hstates : ∀ map ∈ m.maps, (map.states.map State.name).Nodup) (o : Options) (start : Place) :
    (m.classTable o start).classNames.Nodup ↔ m.ClassNamesApart := by
  have hinj : ∀ map ∈ m.maps, ∀ map' ∈ m.maps, map ≠ map' → map.name.text ≠ map'.name.text :=
    fun map hmap map' hmap' hne h => hne (List.inj_on_of_nodup_map hmaps hmap hmap' h)
  have hmem : ∀ name, (∀ map ∈ m.maps, name ∉ (mapClasses m o
      (StateMachine.transitionNames (signatureUnion m.transitions)) m.index map).classNames) ↔
      ∀ map ∈ m.maps, name ≠ map.name.text ∧ ¬map.Takes name := by
    intro name
    refine forall₂_congr fun map hmap => ?_
    rw [mem_classNames, not_or, and_comm]
  change (baseName m :: ((m.maps.map (mapClasses m o _ m.index)).flatMap MapClasses.classNames
    ++ [m.className.text])).Nodup ↔ _
  rw [List.nodup_cons, List.nodup_append', List.disjoint_singleton, List.flatMap_map,
    nodup_flatMap_classNames hwf hmaps hstates]
  simp only [List.mem_append, List.mem_flatMap, List.mem_singleton, not_or, not_exists, not_and,
    List.nodup_singleton, true_and, hmem]
  constructor
  · rintro ⟨⟨hbase, hne⟩, hpairs, hcontext⟩
    refine ⟨fun h => hne h.symm, ?_, ?_, ?_⟩
    · simp only [List.forall_mem_cons]
      exact ⟨hbase, hcontext, List.forall_mem_nil _⟩
    · -- a map does not take its own name, as that is too short
      intro map hmap map' hmap' htakes
      by_cases heq : map = map'
      · obtain ⟨s, -, hname⟩ := htakes
        exact append_ne_self _ _ (heq ▸ hname).symm
      · have hapart := hpairs map hmap map' hmap' heq
        exact ((disjoint_classNames (hinj map hmap map' hmap' heq)).1 hapart).1.1 htakes
    · intro map hmap map' hmap' rest hrest
      have hne : map ≠ map' := by
        rintro rfl
        exact append_ne_self _ _ hrest.symm
      have hapart := hpairs map hmap map' hmap' hne
      exact ((disjoint_classNames (hinj map hmap map' hmap' hne)).1 hapart).2.1 rest hrest
  · rintro ⟨hne, houtside, hholders, hpairs⟩
    simp only [List.forall_mem_cons] at houtside
    refine ⟨⟨houtside.1, fun h => hne h.symm⟩, fun map hmap map' hmap' hother => ?_, houtside.2.1⟩
    refine (disjoint_classNames (hinj map hmap map' hmap' hother)).2 ⟨⟨?_, ?_⟩, ?_, ?_⟩
    · exact hholders map hmap map' hmap'
    · exact hholders map' hmap' map hmap
    · exact hpairs map hmap map' hmap'
    · exact hpairs map' hmap' map hmap

end ClassTable

/-- The names of all classes of a module are different if and only if they are kept
    apart, for a machine whose maps have different names, and so have the real states of
    each map. They are if the names of the maps, the base class and the context class
    are different, and none of them begins with the name of a map and an underscore. -/
theorem class_names_distinct_iff {m : Machine} (hwf : m.WellFormed)
    (hmaps : (m.maps.map fun map => map.name.text).Nodup)
    (hstates : ∀ map ∈ m.maps, (map.states.map State.name).Nodup) (o : Options) (start : Place) :
    (∀ name ∈ (m.classTable o start).classNames,
      ∃ rest, "class " ++ name ++ "(" ++ rest ∈ PythonModule.lines m o start) ∧
    ((m.classTable o start).classNames.Nodup ↔ m.ClassNamesApart) ∧
    ((ClassTable.baseName m :: m.className.text :: m.maps.map fun map => map.name.text).Nodup →
      (∀ name ∈ ClassTable.baseName m :: m.className.text :: m.maps.map fun map => map.name.text,
        ∀ map ∈ m.maps, ∀ rest, name ≠ map.name.text ++ "_" ++ rest) →
      (m.classTable o start).classNames.Nodup) := by
  have hiff := ClassTable.nodup_classNames_iff hwf hmaps hstates o start
  refine ⟨fun name => PythonModule.exists_class_line, hiff, fun hnames hrest => hiff.2 ?_⟩
  rw [List.nodup_cons, List.nodup_cons] at hnames
  obtain ⟨hbase, hcontext, -⟩ := hnames
  have htakes : ∀ name ∈ ClassTable.baseName m :: m.className.text
      :: m.maps.map fun map => map.name.text, ∀ map ∈ m.maps, ¬map.Takes name := by
    rintro name hname map hmap ⟨s, -, heq⟩
    exact hrest name hname map hmap s heq
  refine ⟨?_, ?_, ?_, ?_⟩
  · exact fun h => hbase (h ▸ List.mem_cons_self)
  · intro name hname map hmap
    have hmapName : map.name.text ∈ m.maps.map fun map => map.name.text := List.mem_map_of_mem hmap
    rw [List.mem_cons, List.mem_singleton] at hname
    rcases hname with rfl | rfl
    · refine ⟨fun h => hbase (h ▸ List.mem_cons_of_mem _ hmapName), ?_⟩
      exact htakes _ List.mem_cons_self map hmap
    · refine ⟨fun h => hcontext (h ▸ hmapName), ?_⟩
      exact htakes _ (List.mem_cons_of_mem _ List.mem_cons_self) map hmap
  · intro map hmap map' hmap'
    exact htakes _ (List.mem_cons_of_mem _ (List.mem_cons_of_mem _
      (List.mem_map_of_mem hmap'))) map hmap
  · intro map hmap map' hmap' rest hname
    exact absurd hname (hrest _ (List.mem_cons_of_mem _ (List.mem_cons_of_mem _
      (List.mem_map_of_mem hmap'))) map hmap rest)

namespace Simulator

/-- The classes of the door have different names. -/
theorem door_class_names_apart :
    (doorMachine "False").WellFormed ∧
      ((doorMachine "False").classTable {} ⟨hall "False", shut "False"⟩).classNames =
        ["DoorState", "Hall_Default", "Hall_Shut", "Hall_Open", "Hall_Asked", "Hall",
          "DoorContext"] ∧
      (doorMachine "False").ClassNamesApart := by
  have hwf := Load.wellFormed_of_outcome door_loads
  have hnames : ((doorMachine "False").classTable {} ⟨hall "False", shut "False"⟩).classNames =
      ["DoorState", "Hall_Default", "Hall_Shut", "Hall_Open", "Hall_Asked", "Hall",
        "DoorContext"] := by decide +kernel
  have hstates : ∀ map ∈ (doorMachine "False").maps, (map.states.map State.name).Nodup :=
    List.forall_mem_singleton.2 (by decide)
  refine ⟨hwf, hnames, (class_names_distinct_iff hwf (List.nodup_singleton _) hstates {}
    ⟨hall "False", shut "False"⟩).2.1.1 ?_⟩
  rw [hnames]
  decide

/-- The description of a door in a hall, with a map for the ways it can be shut. -/
def ajarDoor : Value :=
  .object [("class", .str "Door"), ("start", .str "Hall_Shut::Ajar"), ("maps", .list [
    .object [("name", .str "Hall_Shut"), ("states", .list [.object [("name", .str "Ajar")]])],
    .object [("name", .str "Hall"), ("states", .list [.object [("name", .str "Shut")]])]])]

/-- A map of the door with one state. -/
def ajarMap (name state : String) : StateMap where
  name := .str name
  states := [doorState state []]
  default? := none
  line := .int 0

/-- The door with a map for the ways it can be shut. -/
def ajarMachine : Machine :=
  { doorMachine "" with
    start := .str "Hall_Shut::Ajar"
    maps := [ajarMap "Hall_Shut" "Ajar", ajarMap "Hall" "Shut"] }

/-- The place it starts in. -/
def ajarPlace : Place :=
  ⟨ajarMap "Hall_Shut" "Ajar", doorState "Ajar" []⟩

/-- The maps and states of this door have different names, which are names. Yet the
    class of the shut state in the hall is named like the holder of the other map, in
    whose place it comes, while the context class still starts in an instance of that
    holder. -/
theorem shut_hall_shadows_holder :
    (Load.machine ajarDoor .null).outcome.1 = .ok ajarMachine ∧
      (∃ w, ajarMachine.validate none none = .ok w ∧ w.isValid = true) ∧
      (ajarMachine.maps.map fun map => map.name.text).Nodup ∧
      (∀ map ∈ ajarMachine.maps, Text.isName map.name.text = true ∧
        (map.states.map State.name).Nodup ∧ ∀ s ∈ map.states, Text.isName s.name = true) ∧
      ∃ start, ajarMachine.startPlace? = some start ∧
        (ajarMachine.classTable {} start).startState = "Hall_Shut.Ajar" ∧
        (ajarMachine.classTable {} start).classNames =
          ["DoorState", "Hall_Shut_Default", "Hall_Shut_Ajar", "Hall_Shut", "Hall_Default",
            "Hall_Shut", "Hall", "DoorContext"] ∧
        ¬(ajarMachine.classTable {} start).classNames.Nodup := by
  have hload : (Load.machine ajarDoor .null).outcome.1 = .ok ajarMachine := by rfl
  have hvalid : ∃ w, ajarMachine.validate none none = .ok w ∧ w.isValid = true :=
    Machine.exists_validation (by decide +kernel)
  have hmaps : (ajarMachine.maps.map fun map => map.name.text).Nodup := by decide +kernel
  have hnames : (ajarMachine.maps.all fun map => Text.isName map.name.text
      && map.states.all fun s => Text.isName s.name) = true := by decide +kernel
  have hstart : (ajarMachine.startPlace?.map fun p => ClassTable.reference p.scopedName) =
      some "Hall_Shut.Ajar" := by decide +kernel
  have hclasses : (ajarMachine.classTable {} ajarPlace).classNames =
      ["DoorState", "Hall_Shut_Default", "Hall_Shut_Ajar", "Hall_Shut", "Hall_Default",
        "Hall_Shut", "Hall", "DoorContext"] := by decide +kernel
  simp only [List.all_eq_true, Bool.and_eq_true] at hnames
  obtain ⟨start, hplace, hreference⟩ := Option.map_eq_some_iff.1 hstart
  rw [ClassTable.classNames_start _ _ ajarPlace start] at hclasses
  refine ⟨hload, hvalid, hmaps, fun map hmap => ⟨(hnames map hmap).1, ?_, (hnames map hmap).2⟩,
    start, hplace, ?_, hclasses, ?_⟩
  · have hsingle : ∀ map ∈ ajarMachine.maps, map.states.length = 1 := by
      simp [ajarMachine, ajarMap]
    obtain ⟨s, hs⟩ := List.length_eq_one_iff.1 (hsingle map hmap)
    rw [hs]
    exact List.nodup_singleton _
  · rw [← hreference, Machine.classTable]
  · rw [hclasses]
    decide

end Simulator
end StateMachine
