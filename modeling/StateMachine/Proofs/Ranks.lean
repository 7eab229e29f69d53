import Mathlib.Algebra.Order.Field.Basic
import Mathlib.Data.Prod.Lex
import Mathlib.Data.Rat.Cast.Order
import Mathlib.Data.String.Basic
import StateMachine.Model.SignatureUnion
import StateMachine.Proofs.Keys

/-!
# The order of keys

What keys stand for can be put in one order, the order of their *ranks*: first the null, then the
numbers between the two infinities, and after them the texts. Keys that can be compared are compared
by their ranks (`Value.Ordered.lt?_eq_some_iff`), and so are signatures, rank by rank
(`Signature.compareParts_iff`).
-/

namespace StateMachine

/-- A place in the order of keys. -/
abbrev Rank := ℕ ×ₗ ℚ ×ₗ String

/-- Where a meaning stands among others. -/
def Meaning.rank : Meaning → Rank
  | .null => toLex (0, toLex (0, ""))
  | .infinity true => toLex (1, toLex (0, ""))
  | .number q => toLex (2, toLex (q, ""))
  | .infinity false => toLex (3, toLex (0, ""))
  | .text s => toLex (4, toLex (0, s))

namespace Meaning

theorem rank_injective : Function.Injective rank := by
  rintro (_ | s | p | (_ | _)) (_ | t | q | (_ | _)) h <;> simp_all [rank]

@[simp]
theorem rank_text_lt_iff {s t : String} : (text s).rank < (text t).rank ↔ s < t := by
  simp [rank, Prod.Lex.toLex_lt_toLex]

@[simp]
theorem rank_number_lt_iff {p q : ℚ} : (number p).rank < (number q).rank ↔ p < q := by
  simp [rank, Prod.Lex.toLex_lt_toLex]

end Meaning

namespace Value

theorem mkRat_lt_mkRat_iff {p r : Int} {q s : Nat} (hq : q ≠ 0) (hs : s ≠ 0) :
    mkRat p q < mkRat r s ↔ p * s < r * q := by
  have hq : (0 : ℚ) < q := by exact_mod_cast Nat.pos_of_ne_zero hq
  have hs : (0 : ℚ) < s := by exact_mod_cast Nat.pos_of_ne_zero hs
  rw [Rat.mkRat_eq_div, Rat.mkRat_eq_div, div_lt_div_iff₀ hq hs]
  norm_cast

/-- Numbers are compared by what they stand for. -/
theorem Number.lt_iff {a b : Number} {k l : Meaning} (ha : a.meaning? = some k)
    (hb : b.meaning? = some l) : a.lt b = true ↔ k.rank < l.rank := by
  rcases a with i | (⟨n, m, e⟩ | c | _) <;> rcases b with j | (⟨o, p, f⟩ | d | _) <;>
    cases ha <;> cases hb
  · rw [Meaning.rank_number_lt_iff, mkRat_lt_mkRat_iff one_ne_zero one_ne_zero]
    simp [lt]
  · rw [Meaning.rank_number_lt_iff, mkRat_lt_mkRat_iff one_ne_zero (fraction_den_ne_zero o p f)]
    simp [lt, intBelow]
  · cases d <;> simp [lt, intBelow, Meaning.rank, Prod.Lex.toLex_lt_toLex]
  · rw [Meaning.rank_number_lt_iff, mkRat_lt_mkRat_iff (fraction_den_ne_zero n m e) one_ne_zero]
    simp [lt, intAbove]
  · rw [Meaning.rank_number_lt_iff,
      mkRat_lt_mkRat_iff (fraction_den_ne_zero n m e) (fraction_den_ne_zero o p f)]
    simp [lt, Binary64.lt]
  · cases d <;> simp [lt, Binary64.lt, Meaning.rank, Prod.Lex.toLex_lt_toLex]
  · cases c <;> simp [lt, intAbove, Meaning.rank, Prod.Lex.toLex_lt_toLex]
  · cases c <;> simp [lt, Binary64.lt, Meaning.rank, Prod.Lex.toLex_lt_toLex]
  · cases c <;> cases d <;> simp [lt, Binary64.lt, Meaning.rank, Prod.Lex.toLex_lt_toLex]

/-- Where a key stands among others; it does not matter where the number that is none stands. -/
def rank (v : Value) : Rank :=
  (v.meaning?.getD .null).rank

/-- The value is a key, and not the number that is none. -/
structure Ordered (v : Value) : Prop where
  key : v.isKey = true
  number : v.isNaN = false

variable {v w : Value}

theorem Ordered.exists_meaning (h : v.Ordered) : ∃ k, v.meaning? = some k := by
  obtain ⟨hkey, hnumber⟩ := h
  rcases v with _ | b | i | (_ | _ | _) | s | items | members
  · exact ⟨_, rfl⟩
  · exact ⟨_, rfl⟩
  · exact ⟨_, rfl⟩
  · exact ⟨_, rfl⟩
  · exact ⟨_, rfl⟩
  · cases hnumber
  · exact ⟨_, rfl⟩
  · cases hkey
  · cases hkey

theorem ordered_str (s : String) : (Value.str s).Ordered :=
  ⟨rfl, rfl⟩

theorem rank_str (s : String) : (Value.str s).rank = (Meaning.text s).rank :=
  rfl

/-- Keys are alike if they have the same rank. -/
theorem Ordered.alike_iff (hv : v.Ordered) (hw : w.Ordered) :
    v.alike w = true ↔ v.rank = w.rank := by
  obtain ⟨k, hk⟩ := hv.exists_meaning
  obtain ⟨l, hl⟩ := hw.exists_meaning
  rw [alike_iff_meaning? hv.key hw.key, rank, rank, hk, hl, Option.some.injEq]
  exact Meaning.rank_injective.eq_iff.symm

/-- Keys that can be compared are compared by their ranks. -/
theorem Ordered.lt?_eq_some_iff (hv : v.Ordered) (hw : w.Ordered) {below : Bool}
    (h : v.lt? w = some below) : below = true ↔ v.rank < w.rank := by
  obtain ⟨k, hk⟩ := hv.exists_meaning
  obtain ⟨l, hl⟩ := hw.exists_meaning
  have hnumber : ∀ {v : Value} {a : Number}, v.number? = some a → v.meaning? = a.meaning? := by
    intro v a ha
    cases v <;> cases ha <;> rfl
  have hnumbers : ∀ {a b : Number}, v.number? = some a → w.number? = some b →
      a.lt b = below → (below = true ↔ v.rank < w.rank) := by
    rintro a b ha hb rfl
    rw [rank, rank, hk, hl]
    exact Number.lt_iff ((hnumber ha).symm.trans hk) ((hnumber hb).symm.trans hl)
  rw [lt?.eq_def] at h
  split at h
  · obtain rfl := Option.some.inj h
    rw [rank_str, rank_str, Meaning.rank_text_lt_iff, decide_eq_true_iff]
  · split at h
    · next ha hb => exact hnumbers ha hb (Option.some.inj h)
    · cases h

end Value

/-! ## Signatures -/

namespace Signature

/-- The parts of the signature are keys, none of them the number that is none. -/
def Ordered (s : Signature) : Prop :=
  ∀ v ∈ s.parts, v.Ordered

/-- Where the parts of the signature stand in the order of keys. -/
def ranks (s : Signature) : List Rank :=
  s.parts.map Value.rank

/-- Lists of values that can be compared are compared rank by rank. -/
theorem compareParts_iff {vs ws : List Value} (hvs : ∀ v ∈ vs, v.Ordered)
    (hws : ∀ w ∈ ws, w.Ordered) (h : comparableParts vs ws = true) :
    (compareParts vs ws = .lt ↔ vs.map Value.rank < ws.map Value.rank) ∧
      (compareParts vs ws = .gt ↔ ws.map Value.rank < vs.map Value.rank) := by
  induction vs generalizing ws with
  | nil => cases ws <;> simp [compareParts]
  | cons v vs ih =>
    cases ws with
    | nil => simp [compareParts]
    | cons w ws =>
      obtain ⟨hv, hvs⟩ := List.forall_mem_cons.1 hvs
      obtain ⟨hw, hws⟩ := List.forall_mem_cons.1 hws
      rw [List.map_cons, List.map_cons, List.cons_lt_cons_iff, List.cons_lt_cons_iff]
      by_cases halike : v.alike w = true
      · -- these parts have the same rank, so the others decide
        simp only [compareParts, comparableParts, halike, if_true] at h ⊢
        have hrank := (hv.alike_iff hw).1 halike
        simpa [hrank] using ih hvs hws h
      · -- otherwise these two decide, whatever comes after them
        simp only [compareParts, comparableParts, halike] at h ⊢
        obtain ⟨below, hbelow⟩ := Option.isSome_iff_exists.1 h
        have hlt := hv.lt?_eq_some_iff hw hbelow
        have hne : v.rank ≠ w.rank := fun heq => halike ((hv.alike_iff hw).2 heq)
        rw [hbelow]
        cases below with
        | false =>
          have hgt : w.rank < v.rank := by
            refine lt_of_le_of_ne (not_lt.1 fun hvw => ?_) hne.symm
            cases hlt.2 hvw
          simp [hgt, hgt.not_gt, hne]
        | true =>
          have hlt := hlt.1 rfl
          simp [hlt, hlt.not_gt, hne.symm]

variable {a b : Signature}

theorem Ordered.le_iff (ha : a.Ordered) (hb : b.Ordered)
    (h : comparableParts a.parts b.parts = true) : a.le b = true ↔ a.ranks ≤ b.ranks := by
  rw [le, bne_iff_ne, ne_eq, (compareParts_iff ha hb h).2, not_lt]
  rfl

/-- Lists of parameters are alike if their parts have the same ranks. -/
theorem sameParameters_iff_map_rank {ps qs : List (Value × Value)}
    (hps : ∀ v ∈ ps.flatMap fun p => [p.1, p.2], v.Ordered)
    (hqs : ∀ w ∈ qs.flatMap fun q => [q.1, q.2], w.Ordered) :
    sameParameters ps qs = true ↔
      (ps.flatMap fun p => [p.1, p.2]).map Value.rank =
        (qs.flatMap fun q => [q.1, q.2]).map Value.rank := by
  induction ps generalizing qs with
  | nil => cases qs <;> simp [sameParameters]
  | cons p ps ih =>
    cases qs with
    | nil => simp [sameParameters]
    | cons q qs =>
      rw [List.flatMap_cons, List.forall_mem_append] at hps hqs
      simp only [List.forall_mem_cons] at hps hqs
      simp [sameParameters, hps.1.1.alike_iff hqs.1.1, hps.1.2.1.alike_iff hqs.1.2.1,
        ih hps.2 hqs.2, and_assoc]

/-- Signatures are alike if they have the same ranks. -/
theorem Ordered.alike_iff (ha : a.Ordered) (hb : b.Ordered) :
    a.alike b = true ↔ a.ranks = b.ranks := by
  obtain ⟨hname, hparameters⟩ := List.forall_mem_cons.1 ha
  obtain ⟨hname', hparameters'⟩ := List.forall_mem_cons.1 hb
  rw [alike, Bool.and_eq_true, hname.alike_iff hname',
    sameParameters_iff_map_rank hparameters hparameters']
  simp [ranks, parts]

end Signature
end StateMachine
