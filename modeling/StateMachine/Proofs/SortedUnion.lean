import Mathlib.Data.List.Lex
import Mathlib.Data.List.Sort
import StateMachine.Proofs.Ranks
import StateMachine.Proofs.References

/-!
# Sorted unions

The union of signatures has the first transition of each signature
(`exists_of_mem_firstOfEach`), sorted. Where these signatures can be compared and none
holds the number that is none (`Sortable`), their ranks rise strictly
(`signatureUnion_sorted`).

For signatures of texts, the ranks are in the order of their *keys*: the name and the list
of the names and types of the parameters, compared by code points. There can be but one
list of these signatures in which the keys rise, so the union has the same signatures
whatever the order of maps, states and transitions (`Machine.Permuted`), and so have the
names taken from it (`union_is_canonical`).
-/

namespace StateMachine

/-! ## The first of each signature -/

/-- The signatures among the first of each differ. -/
theorem firstOfEach_pairwise (ps : List Placed) :
    (firstOfEach ps).Pairwise fun p q =>
      q.transition.signature.alike p.transition.signature = false := by
  induction ps with
  | nil => exact .nil
  | cons p ps ih =>
    refine .cons (fun q hq => ?_) (ih.filter _)
    simpa using (List.mem_filter.1 hq).2

/-- Among the first of each signature, a transition stands for itself: there is none like it
    before. -/
theorem exists_of_mem_firstOfEach {ps : List Placed} {q : Placed} (h : q ∈ firstOfEach ps) :
    ∃ before after, ps = before ++ q :: after ∧
      ∀ p ∈ before, q.transition.signature.alike p.transition.signature = false := by
  induction ps with
  | nil => cases h
  | cons p ps ih =>
    rcases List.mem_cons.1 h with rfl | h
    · exact ⟨[], ps, rfl, List.forall_mem_nil _⟩
    · obtain ⟨h, hnew⟩ := List.mem_filter.1 h
      obtain ⟨before, after, rfl, hbefore⟩ := ih h
      refine ⟨p :: before, after, rfl, List.forall_mem_cons.2 ⟨?_, hbefore⟩⟩
      simpa using hnew

/-! ## Sorting -/

/-- The signatures of the transitions can be put in order. -/
structure Sortable (ps : List Placed) : Prop where
  ordered : ∀ p ∈ ps, p.transition.signature.Ordered
  comparable : ∀ p ∈ ps, ∀ q ∈ ps,
    Signature.comparableParts p.transition.signature.parts q.transition.signature.parts = true

/-- The ranks of a transition's signature. -/
def Placed.ranks (p : Placed) : List Rank :=
  p.transition.signature.ranks

section Sortable

variable {ps : List Placed}

/-- Signatures that can be put in order do not hold the number that is none. -/
theorem Sortable.holdsNaN (h : Sortable ps) :
    (ps.any fun p => p.transition.signature.holdsNaN) = false := by
  refine List.any_eq_false.2 fun p hp => ?_
  rw [Signature.holdsNaN, List.any_eq_true]
  rintro ⟨v, hv, hnan⟩
  rw [(h.ordered p hp v hv).number] at hnan
  cases hnan

/-- The ranks in a union rise, if the first of each signature can be put in order. -/
theorem signatureUnion_sorted (h : Sortable (firstOfEach ps)) :
    ((signatureUnion ps).map Placed.ranks).SortedLT := by
  have hle : ((signatureUnion ps).map Placed.ranks).Pairwise (· ≤ ·) := by
    rw [signatureUnion, h.holdsNaN]
    simp only [Bool.false_eq_true, if_false]
    -- the transitions are sorted as their ranks would be
    rw [List.map_mergeSort (s := fun r s => decide (r ≤ s))]
    · exact List.pairwise_mergeSort' (· ≤ ·) _
    · intro p hp q hq
      rw [Bool.eq_iff_iff, decide_eq_true_iff]
      exact (h.ordered p hp).le_iff (h.ordered q hq) (h.comparable p hp q hq)
  have hne : ((signatureUnion ps).map Placed.ranks).Nodup := by
    refine ((signatureUnion_perm ps).map Placed.ranks).nodup_iff.2 (List.pairwise_map.2 ?_)
    refine (firstOfEach_pairwise ps).imp_of_mem fun {p q} hp hq hnew heq => ?_
    rw [((h.ordered q hq).alike_iff (h.ordered p hp)).2 heq.symm] at hnew
    cases hnew
  exact ((hle.and hne).imp fun h => lt_of_le_of_ne h.1 h.2).sortedLT

/-- Every transition is represented among the first of each signature. -/
theorem exists_ranks_eq_mem_firstOfEach (h : ∀ p ∈ ps, p.transition.signature.Ordered) {p : Placed}
    (hp : p ∈ ps) : ∃ q ∈ firstOfEach ps, q.ranks = p.ranks := by
  induction ps with
  | nil => cases hp
  | cons p' ps ih =>
    obtain ⟨hp', hps⟩ := List.forall_mem_cons.1 h
    rcases List.mem_cons.1 hp with rfl | hp
    · exact ⟨p, List.mem_cons_self, rfl⟩
    · obtain ⟨q, hq, hranks⟩ := ih hps hp
      by_cases halike : q.transition.signature.alike p'.transition.signature = true
      · -- `q` has given way to the first transition
        have hq := hps q (mem_of_mem_firstOfEach hq)
        exact ⟨p', List.mem_cons_self, ((hq.alike_iff hp').1 halike).symm.trans hranks⟩
      · exact ⟨q, List.mem_cons_of_mem _ (List.mem_filter.2 ⟨hq, by simpa using halike⟩), hranks⟩

end Sortable

/-! ## Signatures of texts -/

/-- The ranks of texts are in the order of their code points. -/
theorem Value.rank_iff_of_isText {v w : Value} (hv : v.isText = true) (hw : w.isText = true) :
    (v.rank < w.rank ↔ v.text < w.text) ∧ (v.rank = w.rank ↔ v.text = w.text) := by
  rw [eq_str_of_isText hv, eq_str_of_isText hw, rank_str, rank_str, Meaning.rank_text_lt_iff,
    Meaning.rank_injective.eq_iff, Meaning.text.injEq]
  exact ⟨.rfl, .rfl⟩

namespace Signature

/-- The name, and the names and types of the parameters, are texts. -/
def Textual (s : Signature) : Prop :=
  ∀ v ∈ s.parts, v.isText = true

/-- What signatures of texts are sorted by: the name, then the list of the names and types
    of the parameters. -/
def key (s : Signature) : String ×ₗ List (String ×ₗ String) :=
  toLex (s.name.text, s.parameters.map fun p => toLex (p.1.text, p.2.text))

/-- The signature of texts with a key. -/
def ofKey (k : String ×ₗ List (String ×ₗ String)) : Signature where
  name := .str (ofLex k).1
  parameters := (ofLex k).2.map fun p => (.str (ofLex p).1, .str (ofLex p).2)

/-- Parameters that are texts are compared one by one, by name and type. -/
theorem map_rank_parameters_lt_iff {ps qs : List (Value × Value)}
    (hps : ∀ v ∈ ps.flatMap fun p => [p.1, p.2], v.isText = true)
    (hqs : ∀ w ∈ qs.flatMap fun q => [q.1, q.2], w.isText = true) :
    (ps.flatMap fun p => [p.1, p.2]).map Value.rank <
        (qs.flatMap fun q => [q.1, q.2]).map Value.rank ↔
      (ps.map fun p => toLex (p.1.text, p.2.text)) <
        qs.map fun q => toLex (q.1.text, q.2.text) := by
  induction ps generalizing qs with
  | nil => cases qs <;> simp
  | cons p ps ih =>
    cases qs with
    | nil => simp
    | cons q qs =>
      rw [List.flatMap_cons, List.forall_mem_append] at hps hqs
      simp only [List.forall_mem_cons] at hps hqs
      obtain ⟨hname, hname'⟩ := Value.rank_iff_of_isText hps.1.1 hqs.1.1
      obtain ⟨htype, htype'⟩ := Value.rank_iff_of_isText hps.1.2.1 hqs.1.2.1
      simp only [List.flatMap_cons, List.cons_append, List.nil_append, List.map_cons,
        List.cons_lt_cons_iff, Prod.Lex.toLex_lt_toLex, EmbeddingLike.apply_eq_iff_eq,
        Prod.mk.injEq, hname, hname', htype, htype', ih hps.2 hqs.2, and_or_left, or_assoc,
        and_assoc]

variable {a b : Signature}

/-- The ranks of signatures of texts are in the order of their keys. -/
theorem Textual.ranks_lt_iff (ha : a.Textual) (hb : b.Textual) :
    a.ranks < b.ranks ↔ a.key < b.key := by
  obtain ⟨hname, hparameters⟩ := List.forall_mem_cons.1 ha
  obtain ⟨hname', hparameters'⟩ := List.forall_mem_cons.1 hb
  obtain ⟨hlt, heq⟩ := Value.rank_iff_of_isText hname hname'
  rw [key, key, Prod.Lex.toLex_lt_toLex, ← hlt, ← heq,
    ← map_rank_parameters_lt_iff hparameters hparameters', ← List.cons_lt_cons_iff]
  rfl

theorem Textual.ofKey_key (ha : a.Textual) : ofKey a.key = a := by
  obtain ⟨hname, hparameters⟩ := List.forall_mem_cons.1 ha
  have hparameter : ∀ p ∈ a.parameters, (Value.str p.1.text, Value.str p.2.text) = p := by
    intro p hp
    have hpair : ∀ v ∈ [p.1, p.2], v.isText = true := fun v hv =>
      hparameters v (List.mem_flatMap.2 ⟨p, hp, hv⟩)
    rw [← Value.eq_str_of_isText (hpair p.1 (by simp)),
      ← Value.eq_str_of_isText (hpair p.2 (by simp))]
  simp only [ofKey, key, ofLex_toLex, List.map_map, Function.comp_def,
    ← Value.eq_str_of_isText hname, List.map_congr_left hparameter, List.map_id']

/-- Signatures of texts with the same ranks are the same. -/
theorem Textual.eq_of_ranks (ha : a.Textual) (hb : b.Textual) (h : a.ranks = b.ranks) :
    a = b := by
  have hkey : a.key = b.key := le_antisymm
    (not_lt.1 fun hlt => ((hb.ranks_lt_iff ha).2 hlt).ne h.symm)
    (not_lt.1 fun hlt => ((ha.ranks_lt_iff hb).2 hlt).ne h)
  rw [← ha.ofKey_key, hkey, hb.ofKey_key]

theorem Textual.ordered (ha : a.Textual) : a.Ordered := by
  intro v hv
  rw [Value.eq_str_of_isText (ha v hv)]
  exact Value.ordered_str _

end Signature

/-! ## The signatures of a machine -/

namespace Machine

/-- The names, and the names and types of the parameters, of all transitions are texts. -/
def TextSignatures (m : Machine) : Prop :=
  ∀ p ∈ m.transitions, p.transition.signature.Textual

/-- The signatures of all transitions, sorted and without repetition. -/
def signatures (m : Machine) : List Signature :=
  (signatureUnion m.transitions).map fun p => p.transition.signature

/-- A signature of a transition of the machine. -/
theorem exists_transitions_iff {m : Machine} {s : Signature} :
    (∃ p ∈ m.transitions, p.transition.signature = s) ↔
      ∃ map ∈ m.maps, ∃ state ∈ map.allStates, ∃ t ∈ state.transitions, t.signature = s := by
  constructor
  · rintro ⟨p, hp, rfl⟩
    obtain ⟨hplace, ht⟩ := mem_transitions.1 hp
    obtain ⟨hmap, hstate⟩ := mem_allPlaces.1 hplace
    exact ⟨_, hmap, _, hstate, _, ht, rfl⟩
  · rintro ⟨map, hmap, state, hstate, t, ht, rfl⟩
    exact ⟨⟨⟨map, state⟩, t⟩,
      mem_transitions.2 ⟨mem_allPlaces.2 ⟨hmap, hstate⟩, ht⟩, rfl⟩

section TextSignatures

variable {m m' : Machine}

theorem TextSignatures.sortable (h : m.TextSignatures) : Sortable (firstOfEach m.transitions) where
  ordered p hp := (h p (mem_of_mem_firstOfEach hp)).ordered
  comparable p hp q hq := Signature.comparableParts_of_isText (h p (mem_of_mem_firstOfEach hp))
    (h q (mem_of_mem_firstOfEach hq))

/-- Nothing gets lost and nothing is added. -/
theorem TextSignatures.mem_signatures (h : m.TextSignatures) {s : Signature} :
    s ∈ m.signatures ↔
      ∃ map ∈ m.maps, ∃ state ∈ map.allStates, ∃ t ∈ state.transitions, t.signature = s := by
  rw [← exists_transitions_iff, signatures, List.mem_map]
  constructor
  · rintro ⟨p, hp, rfl⟩
    exact ⟨p, mem_of_mem_signatureUnion hp, rfl⟩
  · rintro ⟨p, hp, rfl⟩
    obtain ⟨q, hq, hranks⟩ := exists_ranks_eq_mem_firstOfEach (fun q hq => (h q hq).ordered) hp
    exact ⟨q, (signatureUnion_perm _).mem_iff.2 hq,
      (h q (mem_of_mem_firstOfEach hq)).eq_of_ranks (h p hp) hranks⟩

theorem TextSignatures.textual (h : m.TextSignatures) {s : Signature} (hs : s ∈ m.signatures) :
    s.Textual := by
  obtain ⟨p, hp, rfl⟩ := List.mem_map.1 hs
  exact h p (mem_of_mem_signatureUnion hp)

/-- The keys rise. -/
theorem TextSignatures.signatures_sorted (h : m.TextSignatures) :
    (m.signatures.map Signature.key).SortedLT := by
  refine List.Pairwise.sortedLT (List.pairwise_map.2 ?_)
  have hranks := (signatureUnion_sorted h.sortable).pairwise
  rw [List.pairwise_map] at hranks
  refine List.pairwise_map.2 (hranks.imp_of_mem fun hp hq hlt => ?_)
  exact ((h _ (mem_of_mem_signatureUnion hp)).ranks_lt_iff
    (h _ (mem_of_mem_signatureUnion hq))).1 hlt

/-- Machines that have the same signatures list them in the same order. -/
theorem TextSignatures.signatures_eq (h : m.TextSignatures) (h' : m'.TextSignatures)
    (hmem : ∀ s, s ∈ m'.signatures ↔ s ∈ m.signatures) : m'.signatures = m.signatures := by
  have hkeys : m'.signatures.map Signature.key = m.signatures.map Signature.key := by
    refine h'.signatures_sorted.eq_of_mem_iff h.signatures_sorted fun k => ?_
    simp only [List.mem_map, hmem]
  have hofKey : ∀ {m : Machine}, m.TextSignatures →
      (m.signatures.map Signature.key).map Signature.ofKey = m.signatures := by
    intro m h
    rw [List.map_map]
    exact (List.map_congr_left fun s hs => (h.textual hs).ofKey_key).trans (List.map_id _)
  rw [← hofKey h', hkeys, hofKey h]

end TextSignatures
end Machine

/-! ## Permuted machines -/

/-- The states differ only in the order of their transitions. -/
structure State.Permuted (s s' : State) : Prop where
  transitions : s.transitions.Perm s'.transitions
  rest : s' = { s with transitions := s'.transitions }

/-- The maps differ only in the order of their real states and of the transitions of
    states. -/
structure StateMap.Permuted (m m' : StateMap) : Prop where
  states : ∃ states, m.states.Perm states ∧ List.Forall₂ State.Permuted states m'.states
  default : Option.Rel State.Permuted m.default? m'.default?
  rest : m' = { m with states := m'.states, default? := m'.default? }

/-- The machines differ only in the order of their maps, of the real states of maps and of
    the transitions of states. -/
structure Machine.Permuted (m m' : Machine) : Prop where
  maps : ∃ maps, m.maps.Perm maps ∧ List.Forall₂ StateMap.Permuted maps m'.maps
  rest : m' = { m with maps := m'.maps }

/-- Lists that correspond one by one have the same members in the sense in which each two
    that correspond have. -/
theorem forall₂_exists_mem_iff {α : Type} {R : α → α → Prop} {P : α → Prop} {xs ys : List α}
    (h : List.Forall₂ R xs ys) (hR : ∀ x y, R x y → (P x ↔ P y)) :
    (∃ x ∈ xs, P x) ↔ ∃ y ∈ ys, P y := by
  induction h with
  | nil => simp
  | cons hxy _ ih => simp only [List.exists_mem_cons_iff, hR _ _ hxy, ih]

section Permuted

variable {P : Transition → Prop}

theorem State.Permuted.exists_mem_iff {s s' : State} (h : s.Permuted s') :
    (∃ t ∈ s.transitions, P t) ↔ ∃ t ∈ s'.transitions, P t := by
  simp only [h.transitions.mem_iff]

theorem StateMap.Permuted.exists_mem_iff {m m' : StateMap} (h : m.Permuted m') :
    (∃ s ∈ m.allStates, ∃ t ∈ s.transitions, P t) ↔
      ∃ s ∈ m'.allStates, ∃ t ∈ s.transitions, P t := by
  have hdefaults : ∀ d d' : Option State, Option.Rel State.Permuted d d' →
      ((∃ s ∈ d.toList, ∃ t ∈ s.transitions, P t) ↔
        ∃ s ∈ d'.toList, ∃ t ∈ s.transitions, P t) := by
    rintro _ _ (hd | _)
    · simp [hd.exists_mem_iff]
    · rfl
  have hdefault := hdefaults _ _ h.default
  obtain ⟨states, hperm, hstates⟩ := h.states
  have hstates := forall₂_exists_mem_iff hstates fun s s' (hs : s.Permuted s') =>
    hs.exists_mem_iff (P := P)
  simp only [allStates, List.mem_append, or_and_right, exists_or, hdefault, ← hstates,
    hperm.mem_iff]

/-- Permuted machines have the same transitions. -/
theorem Machine.Permuted.exists_mem_iff {m m' : Machine} (h : m.Permuted m') :
    (∃ map ∈ m.maps, ∃ s ∈ map.allStates, ∃ t ∈ s.transitions, P t) ↔
      ∃ map ∈ m'.maps, ∃ s ∈ map.allStates, ∃ t ∈ s.transitions, P t := by
  obtain ⟨maps, hperm, hmaps⟩ := h.maps
  rw [← forall₂_exists_mem_iff hmaps fun map map' (hmap : map.Permuted map') =>
    hmap.exists_mem_iff (P := P)]
  simp only [hperm.mem_iff]

theorem Machine.Permuted.textSignatures {m m' : Machine} (h : m.Permuted m')
    (hm : m.TextSignatures) : m'.TextSignatures := by
  intro p' hp'
  obtain ⟨p, hp, hsignature⟩ := exists_transitions_iff.2
    (h.exists_mem_iff.2 (exists_transitions_iff.1 ⟨p', hp', rfl⟩))
  rw [← hsignature]
  exact hm p hp

/-- Permuted machines list the same signatures in the same order. -/
theorem Machine.Permuted.signatures_eq {m m' : Machine} (h : m.Permuted m')
    (hm : m.TextSignatures) : m'.signatures = m.signatures := by
  refine hm.signatures_eq (h.textSignatures hm) fun s => ?_
  rw [(h.textSignatures hm).mem_signatures, hm.mem_signatures, h.exists_mem_iff]

end Permuted

/-! ## Names in classes -/

/-- The names are those of the signatures. -/
theorem transitionNames_congr {ps qs : List Placed}
    (h : (ps.map fun p => p.transition.signature) = qs.map fun q => q.transition.signature) :
    transitionNames ps = transitionNames qs := by
  have hfold : ∀ ps : List Placed, transitionNames ps =
      (ps.map fun p => p.transition.signature).foldl (fun names s =>
        if s.name == .str defaultName || names.any s.name.alike then names
        else names ++ [s.name]) [] := by
    intro ps
    rw [List.foldl_map]
    rfl
  rw [hfold, hfold, h]

/-- Two class tables have the same names of transitions in the same order: where methods are
    written for them, in the base class and in the context class, and in all reflection
    tables. -/
structure ClassTable.NamesAgree (t t' : ClassTable) : Prop where
  names : t'.transitionNames = t.transitionNames
  baseClass : ∀ s, PythonModule.baseClass s t' = PythonModule.baseClass s t
  contextClass : ∀ s, PythonModule.contextClass s t' =
    PythonModule.contextClass s { t with startState := t'.startState, states := t'.states }
  reflection : ∀ u ∈ [t, t'], ∀ map ∈ u.maps, ∀ cls ∈ map.classes, ∀ table,
    cls.reflection = some table → table.map Prod.fst = t.transitionNames ++ [.str defaultName]

/-- A reflection table holds the names of all transitions, and `Default`. -/
theorem ClassTable.map_fst_reflection {m : Machine} {o : Options} {start : Place}
    {map : MapClasses} (hmap : map ∈ (m.classTable o start).maps) {cls : StateClass}
    (hcls : cls ∈ map.classes) {table : List (Value × Nat)} (h : cls.reflection = some table) :
    table.map Prod.fst = (m.classTable o start).transitionNames ++ [.str defaultName] := by
  have hreflection : ∀ {names : List Value} {map : StateMap} {s : State},
      reflection o names map s = some table → table.map Prod.fst = names ++ [.str defaultName] := by
    intro names map s h
    rw [reflection] at h
    split at h
    · obtain rfl := Option.some.inj h
      rw [List.map_map]
      exact List.map_id _
    · cases h
  obtain ⟨map, -, rfl⟩ := List.mem_map.1 hmap
  rcases List.mem_cons.1 hcls with rfl | hcls
  · exact hreflection h
  · obtain ⟨s, -, rfl⟩ := List.mem_map.1 hcls
    exact hreflection h

/-- The signatures of a machine in which all names and types are texts are listed in the
    order of their keys, each once, and none is missing; each is that of the first transition
    that has it, map by map and the Default State first.

    For a machine that differs in the order of maps, states and transitions, the list is the
    same, and so are the names that methods and reflection tables are made for. -/
theorem union_is_canonical {m : Machine} (h : m.TextSignatures) :
    (m.signatures.map Signature.key).SortedLT ∧
    (∀ s, s ∈ m.signatures ↔
      ∃ map ∈ m.maps, ∃ state ∈ map.allStates, ∃ t ∈ state.transitions, t.signature = s) ∧
    (∀ q ∈ signatureUnion m.transitions, ∃ before after, m.transitions = before ++ q :: after ∧
      ∀ p ∈ before, p.transition.signature ≠ q.transition.signature) ∧
    ∀ m', m.Permuted m' → m'.signatures = m.signatures ∧
      ∀ (o : Options) (start start' : Place),
        (m.classTable o start).NamesAgree (m'.classTable o start') := by
  refine ⟨h.signatures_sorted, fun s => h.mem_signatures, fun q hq => ?_, fun m' hm' => ?_⟩
  · have hq := (signatureUnion_perm _).mem_iff.1 hq
    obtain ⟨before, after, heq, hbefore⟩ := exists_of_mem_firstOfEach hq
    refine ⟨before, after, heq, fun p hp hsame => ?_⟩
    have hordered := (h q (mem_of_mem_firstOfEach hq)).ordered
    have hunlike := hbefore p hp
    rw [hsame, (hordered.alike_iff hordered).2 rfl] at hunlike
    cases hunlike
  · have hsignatures := hm'.signatures_eq h
    refine ⟨hsignatures, fun o start start' => ?_⟩
    have hnames : (m'.classTable o start').transitionNames =
        (m.classTable o start).transitionNames := transitionNames_congr hsignatures
    have hcontext : m'.context = m.context := by rw [hm'.rest]
    have hclass : m'.className = m.className := by rw [hm'.rest]; rfl
    refine ⟨hnames, fun s => ?_, fun s => ?_, fun u hu map hmap cls hcls table htable => ?_⟩
    · rw [PythonModule.baseClass, PythonModule.baseClass, hnames]
      simp only [Machine.classTable, ClassTable.baseName, hcontext]
    · rw [PythonModule.contextClass, PythonModule.contextClass, hnames]
      simp only [Machine.classTable, hclass]
    · simp only [List.mem_cons, List.not_mem_nil, or_false] at hu
      rcases hu with rfl | rfl
      · exact ClassTable.map_fst_reflection hmap hcls htable
      · rw [← hnames]
        exact ClassTable.map_fst_reflection hmap hcls htable

/-! ## A machine in reverse -/

/-- The state with its transitions in reverse. -/
def State.reversed (s : State) : State :=
  { s with transitions := s.transitions.reverse }

/-- The map with its states in reverse, and their transitions. -/
def StateMap.reversed (m : StateMap) : StateMap :=
  { m with
    states := (m.states.map State.reversed).reverse
    default? := m.default?.map State.reversed }

/-- The machine with its maps in reverse, and their states and transitions. -/
def Machine.reversed (m : Machine) : Machine :=
  { m with maps := (m.maps.map StateMap.reversed).reverse }

/-- Lists correspond to their reverse, item by item, if items correspond to theirs. -/
theorem exists_perm_forall₂_reverse {α : Type} {R : α → α → Prop} {f : α → α}
    (h : ∀ x, R x (f x)) (xs : List α) :
    ∃ ys, xs.Perm ys ∧ List.Forall₂ R ys (xs.map f).reverse := by
  refine ⟨xs.reverse, xs.reverse_perm.symm, ?_⟩
  rw [← List.map_reverse, List.forall₂_map_right_iff, List.forall₂_same]
  exact fun x _ => h x

theorem State.permuted_reversed (s : State) : s.Permuted s.reversed :=
  ⟨s.transitions.reverse_perm.symm, rfl⟩

theorem StateMap.permuted_reversed (m : StateMap) : m.Permuted m.reversed where
  states := exists_perm_forall₂_reverse State.permuted_reversed _
  default := by
    rw [reversed]
    cases m.default? with
    | none => exact .none
    | some d => exact .some d.permuted_reversed
  rest := rfl

theorem Machine.permuted_reversed (m : Machine) : m.Permuted m.reversed :=
  ⟨exists_perm_forall₂_reverse StateMap.permuted_reversed _, rfl⟩

open Simulator in
/-- The map of a cellar with a light. -/
def cellar : StateMap where
  name := .str "Cellar"
  states := [
    doorState "Dark" [doorTransition "push" (doorGuard "" .set "Lit" "")],
    doorState "Lit" [doorTransition "push" (doorGuard "" .set "Dark" "")]]
  default? := none
  line := .int 0

/-- A house: a door and a cellar. -/
def house : Machine :=
  { Simulator.doorMachine "" with maps := [Simulator.hall "", cellar] }

/-- The signatures of a house are listed in the same order when it is reversed, and so are the
    names in its classes. -/
theorem reversed_house_lists_the_same :
    house.TextSignatures ∧ house.Permuted house.reversed ∧ house.reversed.maps ≠ house.maps ∧
      house.reversed.signatures = house.signatures ∧
      ∀ start start', (house.classTable {} start).NamesAgree
        (house.reversed.classTable {} start') := by
  have htext : ∀ p ∈ house.transitions, ∀ v ∈ p.transition.signature.parts, v.isText = true := by
    decide +kernel
  have h := (union_is_canonical htext).2.2.2 house.reversed house.permuted_reversed
  refine ⟨htext, house.permuted_reversed, fun hmaps => ?_, h.1, h.2 {}⟩
  -- the first map has another name
  have hname := congrArg (fun maps : List StateMap => maps.head?.map fun m => m.name.text) hmaps
  revert hname
  decide +kernel

end StateMachine
