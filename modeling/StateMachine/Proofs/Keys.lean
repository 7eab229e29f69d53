import StateMachine.Document.Value

/-!
# Keys

Names are compared by the value they stand for: a text stands for itself, a
number or a truth value for a rational number or an infinity. This *meaning*
(`Value.meaning?`) decides whether two values that may serve as keys are equal
(`beq_iff_meaning?`), so equality is symmetric and transitive among them. Only
the number that is none has no meaning, and it equals nothing.
-/

namespace StateMachine

/-- What a key stands for. -/
inductive Meaning
  | null
  | text (s : String)
  | number (q : Rat)
  | infinity (negative : Bool)

/-- What a floating point number stands for. -/
def Binary64.meaning? : Binary64 → Option Meaning
  | .finite negative m e =>
    some (.number (mkRat (fraction negative m e).1 (fraction negative m e).2))
  | .infinite negative => some (.infinity negative)
  | .nan => none

/-- What a number stands for. -/
def Value.Number.meaning? : Value.Number → Option Meaning
  | .int i => some (.number (mkRat i 1))
  | .float x => x.meaning?

/-- What a value that may serve as a key stands for. -/
def Value.meaning? : Value → Option Meaning
  | .null => some .null
  | .str s => some (.text s)
  | .bool b => Number.meaning? (.int (if b then 1 else 0))
  | .int i => Number.meaning? (.int i)
  | .float x => Number.meaning? (.float x)
  | .list _ => none
  | .object _ => none

namespace Value

/-- The fraction of a number has a denominator. -/
theorem fraction_den_ne_zero (negative : Bool) (m : Nat) (e : Int) :
    (Binary64.fraction negative m e).2 ≠ 0 := by
  change (if 0 ≤ e then 1 else Binary64.twoPow (-e).toNat) ≠ 0
  split
  · exact Nat.one_ne_zero
  · exact Nat.ne_of_gt (Nat.pow_pos Nat.two_pos)

/-- Numbers are the same if they stand for the same. -/
theorem Number.same_iff (a b : Number) :
    a.same b = true ↔ ∃ k, a.meaning? = some k ∧ b.meaning? = some k := by
  have hsome : ∀ k l : Meaning, (∃ k', some k = some k' ∧ some l = some k') ↔ k = l := by
    intro k l
    constructor
    · rintro ⟨_, ⟨⟩, ⟨⟩⟩
      rfl
    · rintro rfl
      exact ⟨k, rfl, rfl⟩
  have hrat : ∀ {n d : Int} {c e : Nat}, c ≠ 0 → e ≠ 0 →
      (Meaning.number (mkRat n c) = .number (mkRat d e) ↔ n * e = d * c) := by
    intro n d c e hc he
    rw [Meaning.number.injEq, Rat.mkRat_eq_iff hc he]
  cases a with
  | int i =>
    cases b with
    | int j =>
      rw [meaning?, meaning?, hsome, hrat Nat.one_ne_zero Nat.one_ne_zero]
      simp [same]
    | float y =>
      cases y with
      | finite b n f =>
        rw [meaning?, meaning?, Binary64.meaning?, hsome,
          hrat Nat.one_ne_zero (fraction_den_ne_zero b n f)]
        rw [same, Binary64.isInt, beq_iff_eq, Int.natCast_one, Int.mul_one]
        exact eq_comm
      | infinite b => simp [same, Binary64.isInt, meaning?, Binary64.meaning?]
      | nan => simp [same, Binary64.isInt, meaning?, Binary64.meaning?]
  | float x =>
    cases b with
    | int j =>
      cases x with
      | finite a m e =>
        rw [meaning?, meaning?, Binary64.meaning?, hsome,
          hrat (fraction_den_ne_zero a m e) Nat.one_ne_zero]
        simp [same, Binary64.isInt]
      | infinite a => simp [same, Binary64.isInt, meaning?, Binary64.meaning?]
      | nan => simp [same, Binary64.isInt, meaning?, Binary64.meaning?]
    | float y =>
      cases x with
      | finite a m e =>
        cases y with
        | finite b n f =>
          rw [meaning?, meaning?, Binary64.meaning?, Binary64.meaning?, hsome,
            hrat (fraction_den_ne_zero a m e) (fraction_den_ne_zero b n f)]
          simp [same, Binary64.same]
        | infinite b => simp [same, Binary64.same, meaning?, Binary64.meaning?]
        | nan => simp [same, Binary64.same, meaning?, Binary64.meaning?]
      | infinite a =>
        cases y with
        | infinite b =>
          rw [meaning?, meaning?, Binary64.meaning?, Binary64.meaning?, hsome, Meaning.infinity.injEq]
          simp [same, Binary64.same]
        | finite b n f => simp [same, Binary64.same, meaning?, Binary64.meaning?]
        | nan => simp [same, Binary64.same, meaning?, Binary64.meaning?]
      | nan => cases y <;> simp [same, Binary64.same, meaning?, Binary64.meaning?]

/-- A number stands neither for a text nor for nothing. -/
theorem Number.meaning?_ne (a : Number) :
    a.meaning? ≠ some .null ∧ ∀ s, a.meaning? ≠ some (.text s) := by
  rcases a with i | (_ | _ | _) <;> simp [meaning?, Binary64.meaning?]

/-- A number is set unless it is zero. -/
theorem isSet_of_number {v : Value} {a : Number} (h : v.number? = some a) :
    v.isSet = !a.same (.int 0) := by
  rcases v with _ | b | i | (⟨negative, m, e⟩ | _ | _) | _ | _ | _ <;> cases h
  · cases b <;> rfl
  · rfl
  · have hscaled : (if 0 ≤ e then m * Binary64.twoPow e.toNat else m) = 0 ↔ m = 0 := by
      split
      · exact Nat.mul_eq_zero.trans (or_iff_left (Nat.ne_of_gt (Nat.pow_pos Nat.two_pos)))
      · exact Iff.rfl
    have hzero : (Binary64.fraction negative m e).1 = 0 ↔ m = 0 := by
      rw [← hscaled]
      cases negative with
      | true => exact Int.neg_eq_zero.trans Int.ofNat_eq_zero
      | false => exact Int.ofNat_eq_zero
    rw [isSet, Number.same, Binary64.isInt]
    cases m <;> simp_all [Binary64.isZero]
  · rfl
  · rfl

/-- Keys are equal if they stand for the same. -/
theorem beq_iff_meaning? {v w : Value} (hv : v.isKey = true) :
    (v == w) = true ↔ ∃ k, v.meaning? = some k ∧ w.meaning? = some k := by
  have hnumber : ∀ {v : Value} {a : Number}, v.number? = some a → v.meaning? = a.meaning? →
      (v.sameNumber w = true ↔ ∃ k, v.meaning? = some k ∧ w.meaning? = some k) := by
    intro v a ha hmeaning
    rw [sameNumber, ha, hmeaning]
    cases w with
    | bool b => exact Number.same_iff a _
    | int i => exact Number.same_iff a _
    | float x => exact Number.same_iff a _
    | _ => simp [number?, meaning?, a.meaning?_ne]
  change v.same w = true ↔ _
  cases v with
  | null => cases w <;> simp [same, meaning?, Number.meaning?_ne]
  | str s => cases w <;> simp [same, meaning?, Number.meaning?_ne, @eq_comm _ s]
  | bool b => rw [same]; exact hnumber rfl rfl
  | int i => rw [same]; exact hnumber rfl rfl
  | float x => rw [same]; exact hnumber rfl rfl
  | list _ => cases hv
  | object _ => cases hv

/-- Where two keys are equal, a third equals both or neither. -/
theorem beq_congr {u v w : Value} (hu : u.isKey = true) (hv : v.isKey = true) (h : (u == v) = true) :
    (u == w) = (v == w) := by
  obtain ⟨k, hk, hk'⟩ := (beq_iff_meaning? hu).1 h
  rw [Bool.eq_iff_iff, beq_iff_meaning? hu, beq_iff_meaning? hv, hk, hk']

theorem beq_comm {v w : Value} (hv : v.isKey = true) (hw : w.isKey = true) : (v == w) = (w == v) := by
  rw [Bool.eq_iff_iff, beq_iff_meaning? hv, beq_iff_meaning? hw]
  exact exists_congr fun _ => and_comm

/-- Keys are alike if they stand for the same, or both for nothing. -/
theorem alike_iff_meaning? {v w : Value} (hv : v.isKey = true) (hw : w.isKey = true) :
    v.alike w = true ↔ v.meaning? = w.meaning? := by
  have hnan : ∀ {v : Value}, v.isKey = true → (v.isNaN = true ↔ v.meaning? = none) := by
    intro v hv
    rcases v with _ | _ | _ | (_ | _ | _) | _ | _ | _ <;>
      simp [isNaN, meaning?, Number.meaning?, Binary64.meaning?] at hv ⊢ <;> cases hv
  have hbeq : v.same w = true ↔ ∃ k, v.meaning? = some k ∧ w.meaning? = some k :=
    beq_iff_meaning? hv
  rw [alike, Bool.or_eq_true, Bool.and_eq_true, hnan hv, hnan hw, hbeq]
  cases v.meaning? <;> cases w.meaning? <;> simp [eq_comm]

/-- A key is like itself. -/
theorem alike_self {v : Value} (hv : v.isKey = true) : v.alike v = true :=
  (alike_iff_meaning? hv hv).2 rfl

theorem alike_comm {v w : Value} (hv : v.isKey = true) (hw : w.isKey = true) :
    v.alike w = w.alike v := by
  rw [Bool.eq_iff_iff, alike_iff_meaning? hv hw, alike_iff_meaning? hw hv]
  exact eq_comm

theorem alike_trans {u v w : Value} (hu : u.isKey = true) (hv : v.isKey = true)
    (hw : w.isKey = true) (huv : u.alike v = true) (hvw : v.alike w = true) : u.alike w = true := by
  rw [alike_iff_meaning? hu hv] at huv
  rw [alike_iff_meaning? hv hw] at hvw
  exact (alike_iff_meaning? hu hw).2 (huv.trans hvw)

/-- Of two values that are alike, both are keys or neither is. -/
theorem isKey_congr {v w : Value} (h : v.alike w = true) : v.isKey = w.isKey := by
  cases v <;> cases w <;> first | rfl | simp [alike, isNaN, same, sameNumber, number?] at h

/-- A text equals a value if the value is this text. -/
theorem beq_str_iff {v : Value} {s : String} : (v == .str s) = true ↔ v = .str s := by
  change v.same (.str s) = true ↔ _
  cases v <;> simp [same, sameNumber, number?]

/-- A text is like a value if the value is this text. -/
theorem alike_str_iff {v : Value} {s : String} : v.alike (.str s) = true ↔ v = .str s := by
  have hnan : (Value.str s).isNaN = false := rfl
  rw [alike, hnan, Bool.and_false, Bool.false_or]
  exact beq_str_iff

theorem str_alike_iff {v : Value} {s : String} : (Value.str s).alike v = true ↔ v = .str s := by
  cases v <;> simp [alike, isNaN, same, @eq_comm _ s]

end Value
end StateMachine
