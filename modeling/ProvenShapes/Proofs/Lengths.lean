/-
**Contradictions between lengths.**

Two comparisons of a length are in conflict when no length satisfies both.  The conflict is looked for
on intervals, whose ends are kept coarsely from `2 ^ 63 - 1` on, and which have no upper end unless a
comparison gives one, although a length has 64 bits.  So what is decided is whether some natural
satisfies both comparisons as they are kept.  Below `2 ^ 63 - 1` this is the same question.  Above it
the answers part in three ways: comparisons without an upper end leave no length of 64 bits; an end
that was rounded or could not be moved meets the other end; and a length is excluded together with all
that is rounded to the same double.

Main definitions:

* `Comparison.HoldsCoarsely` — a comparison with a bound as it is kept;
* `HasCommonLength` — some length satisfies two comparisons;
* `HasCoarseLength` — some natural satisfies two comparisons as they are kept;
* `Overlooked`, `Invented`, `Misjudged` — the pairs of comparisons that are misjudged.

Main results:

* `Interval.intersects_ofLength_iff` — **intervals of lengths intersect exactly when some natural
  satisfies both comparisons as they are kept**;
* `coarse_iff_common_iff` — the pairs for which this is the question that was asked;
* `Registry.contradiction?_lengths_iff` — when two comparisons of a length are contradictory;
* `Catalog.length_contradictions` — **which contradictions of lengths are reported**.
-/

import Mathlib
import ProvenShapes.Proofs.Contradiction
import ProvenShapes.Proofs.ExactBounds
import ProvenShapes.Proofs.Number.Coarse
import ProvenShapes.Proofs.TypeClashes

set_option autoImplicit false

namespace ProvenShapes

namespace Comparison

/-- The length satisfies the comparison with a bound as it is kept. -/
def HoldsCoarsely : Comparison → ℕ → ℕ → Prop
  | lt, n, b => n ≤ coarseBelow b
  | le, n, b => n ≤ coarse b
  | gt, n, b => coarseAbove b ≤ n
  | ge, n, b => coarse b ≤ n
  | eq, n, b => n = coarse b
  | ne, n, b => n ≠ coarse b

/-- The comparison gives a lower end. -/
def hasLow : Comparison → Bool
  | gt | ge | eq => true
  | lt | le | ne => false

/-- The comparison gives an upper end. -/
def hasHigh : Comparison → Bool
  | lt | le | eq => true
  | gt | ge | ne => false

/-- How far the comparison keeps from its bound. -/
def gap : Comparison → ℕ
  | lt | gt => 1
  | le | ge | eq | ne => 0

variable {op : Comparison} {n b : ℕ}

theorem gap_of_hasLow (low : op.hasLow = true) : op = gt ∧ op.gap = 1 ∨ op.gap = 0 := by
  cases op with
  | gt => exact .inl ⟨rfl, rfl⟩
  | ge | eq => exact .inr rfl
  | lt | le | ne => simp [hasLow] at low

theorem gap_of_hasHigh (high : op.hasHigh = true) : op = lt ∧ op.gap = 1 ∨ op.gap = 0 := by
  cases op with
  | lt => exact .inl ⟨rfl, rfl⟩
  | le | eq => exact .inr rfl
  | gt | ge | ne => simp [hasHigh] at high

theorem apply_iff_holds : op.apply n b = true ↔ op.Holds n b := by
  have gt : compare n b = .gt ↔ b < n := Nat.compare_eq_gt
  cases op <;> simp [apply, admits, Holds, Nat.compare_eq_lt, gt]

theorem holdsCoarsely_of_lt (endless : op.hasHigh = false) (h : coarse b < n) :
    op.HoldsCoarsely n b := by
  have above := coarseAbove_cases b
  have bound := coarse_cases b
  cases op with
  | gt => exact (by omega : coarseAbove b ≤ n)
  | ge => exact le_of_lt h
  | ne => exact ne_of_gt h
  | lt | le | eq => simp [hasHigh] at endless

end Comparison

/-- Some natural satisfies both comparisons as they are kept. -/
def HasCoarseLength (o₁ : Comparison) (b₁ : UInt64) (o₂ : Comparison) (b₂ : UInt64) : Prop :=
  ∃ n, o₁.HoldsCoarsely n b₁.toNat ∧ o₂.HoldsCoarsely n b₂.toNat

namespace HasCoarseLength

variable {o₁ o₂ : Comparison} {b₁ b₂ : UInt64}

theorem symm (h : HasCoarseLength o₁ b₁ o₂ b₂) : HasCoarseLength o₂ b₂ o₁ b₁ :=
  h.imp fun _ => And.symm

/-- Without an upper end a large natural satisfies both comparisons. -/
theorem of_endless (first : o₁.hasHigh = false) (second : o₂.hasHigh = false) :
    HasCoarseLength o₁ b₁ o₂ b₂ :=
  ⟨coarse b₁.toNat + coarse b₂.toNat + 1, Comparison.holdsCoarsely_of_lt first (by omega),
    Comparison.holdsCoarsely_of_lt second (by omega)⟩

end HasCoarseLength

/-! ### Intervals of lengths -/

namespace Interval

variable {op o₁ o₂ : Comparison} {bound b₁ b₂ : UInt64} {x : ℚ} {n : ℕ}

theorem bounded_ofLength : (ofLength op bound).Bounded := by
  have value := (Number.isWhole_ofNat bound.toNat_lt).1
  have up := (Number.isWhole_stepUp bound.toNat_lt).1
  have down := (Number.isWhole_stepDown bound.toNat_lt).1
  have zero : (Number.int 0).isFinite = true := rfl
  refine ⟨?_, ?_⟩
  · intro side
    cases op <;> cases side <;>
      simp [Side.FiniteEnd, endAt, ofLength, closed, value, up, down, zero]
  · cases op <;> simp [ofLength, value]

/-- The rationals of an interval of lengths. -/
theorem contains_ofLength :
    (ofLength op bound).Contains x ↔
      match op with
      | .lt => 0 ≤ x ∧ x ≤ coarseBelow bound.toNat
      | .le => 0 ≤ x ∧ x ≤ coarse bound.toNat
      | .gt => coarseAbove bound.toNat ≤ x
      | .ge => coarse bound.toNat ≤ x
      | .eq => coarse bound.toNat ≤ x ∧ x ≤ coarse bound.toNat
      | .ne => 0 ≤ x ∧ x ≠ coarse bound.toNat := by
  have value := (Number.isWhole_ofNat bound.toNat_lt).2
  have up := (Number.isWhole_stepUp bound.toNat_lt).2
  have down := (Number.isWhole_stepDown bound.toNat_lt).2
  have zero : (Number.int 0).toRat = 0 := by simp [Number.toRat]
  rw [contains_iff]
  cases op <;> simp [ofLength, closed, Side.Inside, Side.turn, value, up, down, zero]

theorem nonneg_of_contains (h : (ofLength op bound).Contains x) : 0 ≤ x := by
  rw [contains_ofLength] at h
  have above : (0 : ℚ) ≤ coarseAbove bound.toNat := by exact_mod_cast coarseAbove_nonneg _
  cases op with
  | lt | le | ne => exact h.1
  | gt => exact above.trans h
  | ge => exact (Nat.cast_nonneg _).trans h
  | eq => exact (Nat.cast_nonneg _).trans h.1

/-- No integer lies between the rational and the natural. -/
def Near (x : ℚ) (n : ℕ) : Prop := ∀ z : ℤ, ((z : ℚ) ≤ x → z ≤ n) ∧ (x ≤ z → (n : ℤ) ≤ z)

theorem near_floor (h : 0 ≤ x) : Near x ⌊x⌋₊ := by
  intro z
  rw [Int.natCast_floor_eq_floor h]
  exact ⟨Int.le_floor.2, fun le => by exact_mod_cast (Int.floor_le x).trans le⟩

theorem near_ceil (h : 0 ≤ x) : Near x ⌈x⌉₊ := by
  intro z
  rw [Int.natCast_ceil_eq_ceil h]
  exact ⟨fun le => by exact_mod_cast le.trans (Int.le_ceil x), Int.ceil_le.2⟩

/-- Beside a rational there is a natural other than a given one, unless the rational is that one. -/
theorem exists_near_ne (h : 0 ≤ x) {c : ℕ} (apart : x ≠ c) : ∃ n, Near x n ∧ n ≠ c := by
  by_cases floor : ⌊x⌋₊ = c
  · refine ⟨⌈x⌉₊, near_ceil h, ?_⟩
    rintro ceil
    have below := Nat.floor_le h
    have above := Nat.le_ceil x
    rw [floor] at below
    rw [ceil] at above
    exact apart (le_antisymm above below)
  · exact ⟨_, near_floor h, floor⟩

/-- A natural beside a point of an interval satisfies the comparison, unless it is excluded. -/
theorem holdsCoarsely_of_near (inside : (ofLength op bound).Contains x) (near : Near x n)
    (kept : op = .ne → n ≠ coarse bound.toNat) : op.HoldsCoarsely n bound.toNat := by
  rw [contains_ofLength] at inside
  have value := near (coarse bound.toNat)
  rw [Int.cast_natCast] at value
  cases op with
  | lt => exact (near _).2 inside.2
  | le => exact Int.ofNat_le.1 (value.2 inside.2)
  | gt => exact (near _).1 inside
  | ge => exact Int.ofNat_le.1 (value.1 inside)
  | eq => exact le_antisymm (Int.ofNat_le.1 (value.2 inside.2)) (Int.ofNat_le.1 (value.1 inside.1))
  | ne => exact kept rfl

/-- A natural that satisfies the comparison is a point of the interval. -/
theorem contains_of_holdsCoarsely (h : op.HoldsCoarsely n bound.toNat) :
    (ofLength op bound).Contains n := by
  rw [contains_ofLength]
  have nonneg : (0 : ℚ) ≤ n := Nat.cast_nonneg n
  cases op with
  | lt => exact ⟨nonneg, by exact_mod_cast h⟩
  | le => exact ⟨nonneg, by exact_mod_cast h⟩
  | gt => exact Int.cast_le (R := ℚ).2 h
  | ge => exact Nat.cast_le (α := ℚ).2 h
  | eq => exact ⟨by rw [h], by rw [h]⟩
  | ne => exact ⟨nonneg, by exact_mod_cast h⟩

/-- **Intervals of lengths intersect exactly when some natural satisfies both comparisons as they are
kept.** -/
theorem intersects_ofLength_iff :
    (ofLength o₁ b₁).intersects (ofLength o₂ b₂) = true ↔ HasCoarseLength o₁ b₁ o₂ b₂ := by
  rw [intersects_iff bounded_ofLength bounded_ofLength]
  constructor
  · rintro ⟨x, inside₁, inside₂⟩
    have nonneg := nonneg_of_contains inside₁
    by_cases ne₁ : o₁ = .ne
    · by_cases ne₂ : o₂ = .ne
      · subst ne₁ ne₂
        exact .of_endless rfl rfl
      · subst ne₁
        obtain ⟨n, near, apart⟩ := exists_near_ne nonneg (contains_ofLength.1 inside₁).2
        exact ⟨n, apart, holdsCoarsely_of_near inside₂ near (absurd · ne₂)⟩
    · by_cases ne₂ : o₂ = .ne
      · subst ne₂
        obtain ⟨n, near, apart⟩ := exists_near_ne nonneg (contains_ofLength.1 inside₂).2
        exact ⟨n, holdsCoarsely_of_near inside₁ near (absurd · ne₁), apart⟩
      · have near := near_floor nonneg
        exact ⟨_, holdsCoarsely_of_near inside₁ near (absurd · ne₁),
          holdsCoarsely_of_near inside₂ near (absurd · ne₂)⟩
  · rintro ⟨n, first, second⟩
    exact ⟨n, contains_of_holdsCoarsely first, contains_of_holdsCoarsely second⟩

end Interval

/-! ### Lengths of 64 bits -/

/-- Some length satisfies both comparisons. -/
def HasCommonLength (o₁ : Comparison) (b₁ : UInt64) (o₂ : Comparison) (b₂ : UInt64) : Prop :=
  ∃ n : UInt64, o₁.apply n.toNat b₁.toNat = true ∧ o₂.apply n.toNat b₂.toNat = true

/-- No length satisfies both comparisons, and this is not noticed. -/
inductive Overlooked (o₁ : Comparison) (b₁ : UInt64) (o₂ : Comparison) (b₂ : UInt64) : Prop
  /-- Only naturals of more than 64 bits are above the bound. -/
  | beyond (first : o₁ = .gt) (last : b₁.toNat = 2 ^ 64 - 1) (second : o₂.hasHigh = false)
  /-- The last length is the only one, and it is excluded. -/
  | excluded (first : o₁ = .gt ∧ b₁.toNat = 2 ^ 64 - 2 ∨ o₁ = .ge ∧ b₁.toNat = 2 ^ 64 - 1)
      (second : o₂ = .ne) (last : b₂.toNat = 2 ^ 64 - 1)
  /-- The ends, which are apart, meet when they are rounded or cannot be moved. -/
  | rounded (low : o₁.hasLow = true) (high : o₂.hasHigh = true)
      (apart : b₂.toNat < b₁.toNat + o₁.gap + o₂.gap ∨ o₁ = .eq ∧ o₂ = .eq ∧ b₁ ≠ b₂)
      (meet : coarse b₁.toNat ≤ coarse b₂.toNat)
      (above : o₁ = .gt → 2 ^ 63 - 1 ≤ b₁.toNat) (below : o₂ = .lt → 2 ^ 63 ≤ b₂.toNat)
      (points : o₁ = .eq → o₂ = .eq → coarse b₁.toNat = coarse b₂.toNat)

/-- A length is excluded together with the one that is required. -/
structure Invented (o₁ : Comparison) (b₁ : UInt64) (o₂ : Comparison) (b₂ : UInt64) : Prop where
  required : o₁ = .eq
  excluded : o₂ = .ne
  different : b₁ ≠ b₂
  same : coarse b₁.toNat = coarse b₂.toNat

section Judgement

variable {op o₁ o₂ : Comparison} {b₁ b₂ : UInt64}

theorem HasCommonLength.symm (h : HasCommonLength o₁ b₁ o₂ b₂) : HasCommonLength o₂ b₂ o₁ b₁ :=
  h.imp fun _ => And.symm

theorem HasCommonLength.of_lt {n : ℕ} (bits : n < 2 ^ 64) (first : o₁.Holds n b₁.toNat)
    (second : o₂.Holds n b₂.toNat) : HasCommonLength o₁ b₁ o₂ b₂ := by
  refine ⟨.ofNat n, ?_, ?_⟩
  · rwa [UInt64.toNat_ofNat_of_lt' bits, Comparison.apply_iff_holds]
  · rwa [UInt64.toNat_ofNat_of_lt' bits, Comparison.apply_iff_holds]

/-- What is kept of a length satisfies what is kept of a comparison. -/
theorem holdsCoarsely_coarse {n b : ℕ} (h : op.Holds n b) (kept : op ≠ .ne) :
    op.HoldsCoarsely (coarse n) b := by
  have length := coarse_cases n
  have bound := coarse_cases b
  cases op with
  | lt =>
      have mono := coarse_mono (le_of_lt h)
      have h : n < b := h
      have below := coarseBelow_cases b
      simp only [Comparison.HoldsCoarsely]
      omega
  | gt =>
      have mono := coarse_mono (le_of_lt h)
      have h : b < n := h
      have above := coarseAbove_cases b
      simp only [Comparison.HoldsCoarsely]
      omega
  | le => exact coarse_mono h
  | ge => exact coarse_mono h
  | eq => exact congrArg coarse h
  | ne => exact absurd rfl kept

/-- Where one length is excluded, another one is left, unless the comparison requires a length that is
kept as the excluded one. -/
theorem coarse_or_invented {n : ℕ} (holds : op.Holds n b₁.toNat) (kept : op ≠ .ne)
    (apart : n ≠ b₂.toNat) : HasCoarseLength op b₁ .ne b₂ ∨ Invented op b₁ .ne b₂ := by
  by_cases same : coarse n = coarse b₂.toNat
  · have length := coarse_cases n
    have hole := coarse_cases b₂.toNat
    have bound := coarse_cases b₁.toNat
    cases op with
    | lt =>
        have below := coarseBelow_cases b₁.toNat
        have holds : n < b₁.toNat := holds
        exact .inl ⟨0, by simp only [Comparison.HoldsCoarsely]; omega,
          by simp only [Comparison.HoldsCoarsely]; omega⟩
    | le =>
        exact .inl ⟨0, Nat.zero_le _, by simp only [Comparison.HoldsCoarsely]; omega⟩
    | gt | ge => exact .inl (.of_endless rfl rfl)
    | eq =>
        obtain rfl : n = b₁.toNat := holds
        exact .inr ⟨rfl, rfl, fun eq => apart (congrArg UInt64.toNat eq), same⟩
    | ne => exact absurd rfl kept
  · exact .inl ⟨coarse n, holdsCoarsely_coarse holds kept, same⟩

/-- A contradiction is reported of comparisons with a common length only if it is invented. -/
theorem invented_of_common (common : HasCommonLength o₁ b₁ o₂ b₂)
    (reported : ¬HasCoarseLength o₁ b₁ o₂ b₂) :
    Invented o₁ b₁ o₂ b₂ ∨ Invented o₂ b₂ o₁ b₁ := by
  obtain ⟨n, first, second⟩ := common
  rw [Comparison.apply_iff_holds] at first second
  by_cases ne₁ : o₁ = .ne
  · by_cases ne₂ : o₂ = .ne
    · subst ne₁ ne₂
      exact absurd (.of_endless rfl rfl) reported
    · subst ne₁
      rcases coarse_or_invented second ne₂ first with coarse | invented
      · exact absurd coarse.symm reported
      · exact .inr invented
  · by_cases ne₂ : o₂ = .ne
    · subst ne₂
      rcases coarse_or_invented first ne₁ second with coarse | invented
      · exact absurd coarse reported
      · exact .inl invented
    · exact absurd ⟨_, holdsCoarsely_coarse first ne₁, holdsCoarsely_coarse second ne₂⟩ reported

theorem Invented.hasCommonLength (h : Invented o₁ b₁ o₂ b₂) : HasCommonLength o₁ b₁ o₂ b₂ := by
  obtain ⟨rfl, rfl, different, -⟩ := h
  refine .of_lt b₁.toNat_lt rfl ?_
  exact fun same => different (UInt64.toNat_inj.1 same)

theorem Invented.not_hasCoarseLength (h : Invented o₁ b₁ o₂ b₂) : ¬HasCoarseLength o₁ b₁ o₂ b₂ := by
  obtain ⟨rfl, rfl, -, same⟩ := h
  rintro ⟨n, first, second⟩
  exact second (first.trans same)

/-- A lower end is exact where a strict one can be moved, and else it is the bound as it is kept. -/
theorem low_cases {n b : ℕ} (low : op.hasLow = true) (h : op.HoldsCoarsely n b) :
    (op = .gt ∧ b < 2 ^ 63 - 1 ∧ b < n) ∨ ((op = .gt → 2 ^ 63 - 1 ≤ b) ∧ coarse b ≤ n) := by
  have above := coarseAbove_cases b
  cases op with
  | gt =>
      have h : coarseAbove b ≤ n := h
      simp only [true_and, true_implies]
      omega
  | ge => exact .inr ⟨nofun, h⟩
  | eq => exact .inr ⟨nofun, Nat.le_of_eq (Eq.symm h)⟩
  | lt | le | ne => simp [Comparison.hasLow] at low

/-- An upper end is exact where a strict one can be moved, and else it is the bound as it is kept. -/
theorem high_cases {n b : ℕ} (high : op.hasHigh = true) (h : op.HoldsCoarsely n b) :
    (op = .lt ∧ b < 2 ^ 63 ∧ n < b) ∨ ((op = .lt → 2 ^ 63 ≤ b) ∧ n ≤ coarse b) := by
  have below := coarseBelow_cases b
  cases op with
  | lt =>
      have h : n ≤ coarseBelow b := h
      simp only [true_and, true_implies]
      omega
  | le => exact .inr ⟨nofun, h⟩
  | eq => exact .inr ⟨nofun, Nat.le_of_eq h⟩
  | gt | ge | ne => simp [Comparison.hasHigh] at high

/-- A lower and an upper end leave a length exactly if there is room between the bounds. -/
theorem hasCommonLength_iff_of_ends (low : o₁.hasLow = true) (high : o₂.hasHigh = true) :
    HasCommonLength o₁ b₁ o₂ b₂ ↔
      b₁.toNat + o₁.gap + o₂.gap ≤ b₂.toNat ∧ (o₁ = .eq → o₂ = .eq → b₁ = b₂) := by
  constructor
  · rintro ⟨n, first, second⟩
    rw [Comparison.apply_iff_holds] at first second
    have start : b₁.toNat + o₁.gap ≤ n.toNat := by
      cases o₁ with
      | gt | ge => exact first
      | eq => exact Nat.le_of_eq (Eq.symm first)
      | lt | le | ne => simp [Comparison.hasLow] at low
    have stop : n.toNat + o₂.gap ≤ b₂.toNat := by
      cases o₂ with
      | lt | le => exact second
      | eq => exact Nat.le_of_eq second
      | gt | ge | ne => simp [Comparison.hasHigh] at high
    refine ⟨by omega, ?_⟩
    rintro rfl rfl
    exact UInt64.toNat_inj.1 ((Eq.symm first).trans second)
  · rintro ⟨room, points⟩
    have bits := b₂.toNat_lt
    by_cases point : o₂ = .eq
    · -- the second bound itself is a common length
      subst point
      refine .of_lt bits ?_ rfl
      cases o₁ with
      | gt | ge => exact room
      | eq => rw [points rfl rfl]; rfl
      | lt | le | ne => simp [Comparison.hasLow] at low
    · -- the first length that satisfies the first comparison is common
      refine .of_lt (n := b₁.toNat + o₁.gap) (by omega) ?_ ?_
      · cases o₁ with
        | gt => exact Nat.lt_succ_self _
        | ge => exact le_refl b₁.toNat
        | eq => rfl
        | lt | le | ne => simp [Comparison.hasLow] at low
      · cases o₂ with
        | lt | le => exact room
        | eq => exact absurd rfl point
        | gt | ge | ne => simp [Comparison.hasHigh] at high

/-- Ends that are apart are overlooked only where they are kept coarsely. -/
theorem overlooked_of_ends (low : o₁.hasLow = true) (high : o₂.hasHigh = true)
    (common : HasCoarseLength o₁ b₁ o₂ b₂) (none : ¬HasCommonLength o₁ b₁ o₂ b₂) :
    Overlooked o₁ b₁ o₂ b₂ := by
  obtain ⟨n, first, second⟩ := common
  have apart : b₂.toNat < b₁.toNat + o₁.gap + o₂.gap ∨ o₁ = .eq ∧ o₂ = .eq ∧ b₁ ≠ b₂ := by
    rw [hasCommonLength_iff_of_ends low high] at none
    by_contra room
    refine none ⟨by omega, fun eq eq' => ?_⟩
    by_contra different
    exact room (.inr ⟨eq, eq', different⟩)
  have points : o₁ = .eq → o₂ = .eq → coarse b₁.toNat = coarse b₂.toNat := by
    rintro rfl rfl
    exact (Eq.symm first).trans second
  have bound₁ := coarse_cases b₁.toNat
  have bound₂ := coarse_cases b₂.toNat
  rcases low_cases low first with ⟨rfl, small, above⟩ | ⟨large, above⟩
  · -- a lower end that was moved is exact, and so the upper end would be below it
    exfalso
    have apart : b₂.toNat < b₁.toNat + 1 + o₂.gap := by simpa [Comparison.gap] using apart
    rcases high_cases high second with ⟨rfl, small', below⟩ | ⟨large', below⟩
    · have gap : Comparison.lt.gap = 1 := rfl
      omega
    · rcases Comparison.gap_of_hasHigh high with ⟨rfl, gap⟩ | gap
      · have := large' rfl
        omega
      · omega
  · rcases high_cases high second with ⟨rfl, small, below⟩ | ⟨large', below⟩
    · -- and the same of an upper end that was moved
      exfalso
      have apart : b₂.toNat < b₁.toNat + o₁.gap + 1 := by simpa [Comparison.gap] using apart
      rcases Comparison.gap_of_hasLow low with ⟨rfl, gap⟩ | gap
      · have := large rfl
        omega
      · omega
    · exact .rounded low high apart (above.trans below) large large' points

/-- An upper end that leaves a natural leaves its beginning. -/
theorem holds_of_le_one {n m b : ℕ} (low : op.hasLow = false) (high : op.hasHigh = true)
    (h : op.HoldsCoarsely n b) (le : m ≤ n) (one : m ≤ 1) : op.Holds m b := by
  have bound := coarse_cases b
  have ends := high_cases high h
  cases op with
  | lt =>
      simp only [true_and, true_implies] at ends
      exact (by omega : m < b)
  | le =>
      have h : n ≤ coarse b := h
      exact (by omega : m ≤ b)
  | gt | ge | eq | ne => simp [Comparison.hasLow, Comparison.hasHigh] at low high

/-- Two comparisons without a lower end, of which one gives an upper end, have a common length if
they have one as they are kept. -/
theorem common_of_high (low₁ : o₁.hasLow = false) (low₂ : o₂.hasLow = false)
    (high : o₂.hasHigh = true) (common : HasCoarseLength o₁ b₁ o₂ b₂) :
    HasCommonLength o₁ b₁ o₂ b₂ := by
  obtain ⟨n, first, second⟩ := common
  have least {m : ℕ} : m ≤ n → m ≤ 1 → o₂.Holds m b₂.toNat := holds_of_le_one low₂ high second
  by_cases high₁ : o₁.hasHigh = true
  · exact .of_lt (n := 0) (by omega) (holds_of_le_one low₁ high₁ first (Nat.zero_le n) (by omega))
      (least (Nat.zero_le n) (by omega))
  · obtain rfl : o₁ = .ne := by cases o₁ <;> simp_all [Comparison.hasLow, Comparison.hasHigh]
    by_cases zero : b₁.toNat = 0
    · have positive : n ≠ coarse b₁.toNat := first
      rw [zero, coarse_of_lt (by omega)] at positive
      exact .of_lt (n := 1) (by omega) (by rw [zero]; exact one_ne_zero) (least (by omega) le_rfl)
    · exact .of_lt (n := 0) (by omega) (Ne.symm zero) (least (Nat.zero_le n) (by omega))

theorem overlooked_of_high (high : o₂.hasHigh = true) (common : HasCoarseLength o₁ b₁ o₂ b₂)
    (none : ¬HasCommonLength o₁ b₁ o₂ b₂) :
    Overlooked o₁ b₁ o₂ b₂ ∨ Overlooked o₂ b₂ o₁ b₁ := by
  by_cases low₁ : o₁.hasLow = true
  · exact .inl (overlooked_of_ends low₁ high common none)
  · by_cases low₂ : o₂.hasLow = true
    · by_cases high₁ : o₁.hasHigh = true
      · exact .inr (overlooked_of_ends low₂ high₁ common.symm fun h => none h.symm)
      · -- a length is required and another one is excluded
        obtain rfl : o₁ = .ne := by cases o₁ <;> simp_all [Comparison.hasLow, Comparison.hasHigh]
        obtain rfl : o₂ = .eq := by cases o₂ <;> simp_all [Comparison.hasLow, Comparison.hasHigh]
        obtain ⟨n, first, second⟩ := common
        have apart : b₂.toNat ≠ b₁.toNat := fun same => first (second.trans (congrArg coarse same))
        exact absurd (.of_lt b₂.toNat_lt apart rfl) none
    · simp only [Bool.not_eq_true] at low₁ low₂
      exact absurd (common_of_high low₁ low₂ high common) none

/-- The last length satisfies a comparison without an upper end, unless it is excluded. -/
theorem holds_last {b : ℕ} (endless : op.hasHigh = false) (kept : op ≠ .ne) (bits : b < 2 ^ 64)
    (below : ¬(op = .gt ∧ b = 2 ^ 64 - 1)) : op.Holds (2 ^ 64 - 1) b := by
  cases op with
  | gt =>
      simp only [true_and] at below
      exact (by omega : b < 2 ^ 64 - 1)
  | ge => exact (by omega : b ≤ 2 ^ 64 - 1)
  | ne => exact absurd rfl kept
  | lt | le | eq => simp [Comparison.hasHigh] at endless

/-- Without an upper end one excluded length is the only one just if it is the last. -/
theorem overlooked_of_excluded (endless : op.hasHigh = false) (kept : op ≠ .ne)
    (below : ¬(op = .gt ∧ b₁.toNat = 2 ^ 64 - 1)) (none : ¬HasCommonLength op b₁ .ne b₂) :
    Overlooked op b₁ .ne b₂ := by
  have hole {m : ℕ} (bits : m < 2 ^ 64) (holds : op.Holds m b₁.toNat) : m = b₂.toNat := by
    by_contra other
    exact none (.of_lt bits holds other)
  have bits := b₁.toNat_lt
  have last := hole (by omega) (holds_last endless kept bits below)
  cases op with
  | gt =>
      simp only [true_and] at below
      refine .excluded (.inl ⟨rfl, ?_⟩) rfl last.symm
      by_contra more
      have := hole (m := 2 ^ 64 - 2) (by omega) (by omega : b₁.toNat < 2 ^ 64 - 2)
      omega
  | ge =>
      refine .excluded (.inr ⟨rfl, ?_⟩) rfl last.symm
      by_contra more
      have := hole (m := 2 ^ 64 - 2) (by omega) (by omega : b₁.toNat ≤ 2 ^ 64 - 2)
      omega
  | ne => exact absurd rfl kept
  | lt | le | eq => simp [Comparison.hasHigh] at endless

/-- Two lengths are excluded, and others are left. -/
theorem HasCommonLength.of_excluded : HasCommonLength .ne b₁ .ne b₂ := by
  have free (m : ℕ) (bits : m < 2 ^ 64) (first : m ≠ b₁.toNat) (second : m ≠ b₂.toNat) :
      HasCommonLength .ne b₁ .ne b₂ := .of_lt bits first second
  by_cases zero : 0 ≠ b₁.toNat ∧ 0 ≠ b₂.toNat
  · exact free 0 (by omega) zero.1 zero.2
  · by_cases one : 1 ≠ b₁.toNat ∧ 1 ≠ b₂.toNat
    · exact free 1 (by omega) one.1 one.2
    · exact free 2 (by omega) (by omega) (by omega)

/-- Without an upper end contradictions are overlooked only at the last lengths. -/
theorem overlooked_of_endless (first : o₁.hasHigh = false) (second : o₂.hasHigh = false)
    (none : ¬HasCommonLength o₁ b₁ o₂ b₂) : Overlooked o₁ b₁ o₂ b₂ ∨ Overlooked o₂ b₂ o₁ b₁ := by
  by_cases top₁ : o₁ = .gt ∧ b₁.toNat = 2 ^ 64 - 1
  · exact .inl (.beyond top₁.1 top₁.2 second)
  · by_cases top₂ : o₂ = .gt ∧ b₂.toNat = 2 ^ 64 - 1
    · exact .inr (.beyond top₂.1 top₂.2 first)
    · by_cases ne₁ : o₁ = .ne
      · subst ne₁
        by_cases ne₂ : o₂ = .ne
        · subst ne₂
          exact absurd .of_excluded none
        · exact .inr (overlooked_of_excluded second ne₂ top₂ fun h => none h.symm)
      · by_cases ne₂ : o₂ = .ne
        · subst ne₂
          exact .inl (overlooked_of_excluded first ne₁ top₁ none)
        · exact absurd (.of_lt (by omega) (holds_last first ne₁ b₁.toNat_lt top₁)
            (holds_last second ne₂ b₂.toNat_lt top₂)) none

/-- A contradiction that is not noticed is overlooked in one of the three ways. -/
theorem overlooked_of_coarse (common : HasCoarseLength o₁ b₁ o₂ b₂)
    (none : ¬HasCommonLength o₁ b₁ o₂ b₂) :
    Overlooked o₁ b₁ o₂ b₂ ∨ Overlooked o₂ b₂ o₁ b₁ := by
  by_cases high₂ : o₂.hasHigh = true
  · exact overlooked_of_high high₂ common none
  · by_cases high₁ : o₁.hasHigh = true
    · exact (overlooked_of_high high₁ common.symm fun h => none h.symm).symm
    · simp only [Bool.not_eq_true] at high₁ high₂
      exact overlooked_of_endless high₁ high₂ none

theorem Overlooked.not_hasCommonLength (h : Overlooked o₁ b₁ o₂ b₂) :
    ¬HasCommonLength o₁ b₁ o₂ b₂ := by
  cases h with
  | beyond first last second =>
      subst first
      rintro ⟨n, more, -⟩
      have more : b₁.toNat < n.toNat := Comparison.apply_iff_holds.1 more
      have bits := n.toNat_lt
      omega
  | excluded first second last =>
      subst second
      rintro ⟨n, more, other⟩
      rw [Comparison.apply_iff_holds] at more other
      have other : n.toNat ≠ b₂.toNat := other
      have bits := n.toNat_lt
      obtain ⟨rfl, bound⟩ | ⟨rfl, bound⟩ := first
      · have more : b₁.toNat < n.toNat := more
        omega
      · have more : b₁.toNat ≤ n.toNat := more
        omega
  | rounded low high apart =>
      rw [hasCommonLength_iff_of_ends low high]
      rintro ⟨room, points⟩
      rcases apart with less | ⟨eq, eq', different⟩
      · omega
      · exact different (points eq eq')

theorem Overlooked.hasCoarseLength (h : Overlooked o₁ b₁ o₂ b₂) : HasCoarseLength o₁ b₁ o₂ b₂ := by
  cases h with
  | beyond first last second => exact .of_endless (by rw [first]; rfl) second
  | excluded first second last =>
      have endless : o₁.hasHigh = false := by rcases first with ⟨rfl, -⟩ | ⟨rfl, -⟩ <;> rfl
      exact .of_endless endless (by rw [second]; rfl)
  | rounded low high apart meet above below points =>
      have start {n : ℕ} (le : coarse b₁.toNat ≤ n) (point : o₁ = .eq → n = coarse b₁.toNat) :
          o₁.HoldsCoarsely n b₁.toNat := by
        have moved := coarseAbove_cases b₁.toNat
        cases o₁ with
        | gt =>
            have := above rfl
            exact (by omega : coarseAbove b₁.toNat ≤ n)
        | ge => exact le
        | eq => exact point rfl
        | lt | le | ne => simp [Comparison.hasLow] at low
      have stop {n : ℕ} (le : n ≤ coarse b₂.toNat) (point : o₂ = .eq → n = coarse b₂.toNat) :
          o₂.HoldsCoarsely n b₂.toNat := by
        have moved := coarseBelow_cases b₂.toNat
        cases o₂ with
        | lt =>
            have := below rfl
            exact (by omega : n ≤ coarseBelow b₂.toNat)
        | le => exact le
        | eq => exact point rfl
        | gt | ge | ne => simp [Comparison.hasHigh] at high
      by_cases point : o₁ = .eq
      · exact ⟨coarse b₁.toNat, start le_rfl fun _ => rfl, stop meet (points point)⟩
      · exact ⟨coarse b₂.toNat, start meet (absurd · point), stop le_rfl fun _ => rfl⟩

/-- Two comparisons are misjudged: a contradiction between them is overlooked or invented. -/
def Misjudged (o₁ : Comparison) (b₁ : UInt64) (o₂ : Comparison) (b₂ : UInt64) : Prop :=
  Overlooked o₁ b₁ o₂ b₂ ∨ Overlooked o₂ b₂ o₁ b₁ ∨ Invented o₁ b₁ o₂ b₂ ∨ Invented o₂ b₂ o₁ b₁

theorem coarse_iff_common_iff :
    (HasCoarseLength o₁ b₁ o₂ b₂ ↔ HasCommonLength o₁ b₁ o₂ b₂) ↔ ¬Misjudged o₁ b₁ o₂ b₂ := by
  constructor
  · rintro agree (overlooked | overlooked | invented | invented)
    · exact overlooked.not_hasCommonLength (agree.1 overlooked.hasCoarseLength)
    · exact overlooked.not_hasCommonLength (agree.1 overlooked.hasCoarseLength.symm).symm
    · exact invented.not_hasCoarseLength (agree.2 invented.hasCommonLength)
    · exact invented.not_hasCoarseLength (agree.2 invented.hasCommonLength.symm).symm
  · intro right
    constructor
    · intro coarse
      by_contra none
      rcases overlooked_of_coarse coarse none with overlooked | overlooked
      · exact right (.inl overlooked)
      · exact right (.inr (.inl overlooked))
    · intro common
      by_contra none
      exact right (.inr (.inr (invented_of_common common none)))

/-- A small bound is kept as it is. -/
theorem holdsCoarsely_iff {n b : ℕ} (small : b < 2 ^ 63 - 1) :
    op.HoldsCoarsely n b ↔ op.Holds n b := by
  have bound := coarse_cases b
  have above := coarseAbove_cases b
  have below := coarseBelow_cases b
  cases op <;> simp only [Comparison.HoldsCoarsely, Comparison.Holds] <;> omega

/-- A comparison with a small bound does not tell the naturals from `2 ^ 63` on apart. -/
theorem holds_min {n b : ℕ} (small : b < 2 ^ 63 - 1) (h : op.Holds n b) :
    op.Holds (min n (2 ^ 63)) b := by
  cases op <;> simp only [Comparison.Holds] at h ⊢ <;> omega

/-- Below `2 ^ 63 - 1` no pair of comparisons is misjudged. -/
theorem not_misjudged (small₁ : b₁.toNat < 2 ^ 63 - 1) (small₂ : b₂.toNat < 2 ^ 63 - 1) :
    ¬Misjudged o₁ b₁ o₂ b₂ := by
  rw [← coarse_iff_common_iff]
  constructor
  · rintro ⟨n, first, second⟩
    rw [holdsCoarsely_iff small₁] at first
    rw [holdsCoarsely_iff small₂] at second
    exact .of_lt (n := min n (2 ^ 63)) (by omega) (holds_min small₁ first) (holds_min small₂ second)
  · rintro ⟨n, first, second⟩
    rw [Comparison.apply_iff_holds] at first second
    exact ⟨n.toNat, (holdsCoarsely_iff small₁).2 first, (holdsCoarsely_iff small₂).2 second⟩

end Judgement

/-! ### Registering two comparisons of a length -/

namespace Registry

variable {r : Registry} {s : ClauseSet}

/-- Only lengths are compared in the set. -/
def OnlyLengths (s : ClauseSet) : Prop := ∀ c ∈ s.toList, ∃ op bound, c = .length op bound

theorem OnlyLengths.exists_of_clashes (only : OnlyLengths s) (clashes : r.Clashes s) :
    ∃ o₁ b₁ o₂ b₂, .length o₁ b₁ ∈ s.toList ∧ .length o₂ b₂ ∈ s.toList ∧ (o₁, b₁) ≠ (o₂, b₂) ∧
      (Interval.ofLength o₁ b₁).intersects (.ofLength o₂ b₂) = false := by
  have absent {c : Clause} (other : ∀ op bound, c ≠ .length op bound) : c ∉ s.toList := by
    intro mem
    obtain ⟨op, bound, rfl⟩ := only c mem
    exact other op bound rfl
  cases clashes with
  | lengths h₁ h₂ different apart => exact ⟨_, _, _, _, h₁, h₂, different, apart⟩
  | types hx => exact absurd hx (absent nofun)
  | values h₁ => exact absurd h₁ (absent nofun)
  | references hp => exact absurd hp (absent nofun)
  | fields hp => exact absurd hp (absent nofun)
  | kinds hk =>
      cases pins_iff_leadsTo.1 hk with
      | here mem => exact absurd mem (absent nofun)
      | behind mem => exact absurd mem (absent nofun)
      | inside mem => exact absurd mem (absent nofun)

variable {o₁ o₂ : Comparison} {b₁ b₂ : UInt64}

theorem mem_lengths_iff {c : Clause} :
    c ∈ (ClauseSet.empty.extend [.length o₁ b₁, .length o₂ b₂]).toList ↔
      c = .length o₁ b₁ ∨ c = .length o₂ b₂ := by
  constructor
  · intro mem
    simpa [ClauseSet.empty] using ClauseSet.mem_extend mem
  · intro listed
    have other : ∀ op bound, c ≠ .value op bound := by rcases listed with rfl | rfl <;> simp
    refine (ClauseSet.contains_iff_mem other).1 (ClauseSet.contains_extend.2 (.inl ⟨c, ?_, ?_⟩))
    · simpa using listed
    · exact c.beq_refl

/-- Two comparisons of a length are contradictory when they leave no natural as they are kept. -/
theorem contradiction?_lengths_iff (different : (o₁, b₁) ≠ (o₂, b₂)) :
    (r.contradiction? (ClauseSet.empty.extend [.length o₁ b₁, .length o₂ b₂])).isSome = true ↔
      ¬HasCoarseLength o₁ b₁ o₂ b₂ := by
  constructor
  · intro found coarse
    have only : OnlyLengths (ClauseSet.empty.extend [.length o₁ b₁, .length o₂ b₂]) := by
      intro c mem
      rcases mem_lengths_iff.1 mem with rfl | rfl
      · exact ⟨_, _, rfl⟩
      · exact ⟨_, _, rfl⟩
    obtain ⟨p, m, q, n, hp, hq, apart, disjoint⟩ :=
      only.exists_of_clashes (clashes_of_contradiction? found)
    rw [← Bool.not_eq_true, Interval.intersects_ofLength_iff] at disjoint
    -- the clauses that clash are the two that are given, in one order or the other
    simp only [mem_lengths_iff, Clause.length.injEq] at hp hq
    obtain ⟨rfl, rfl⟩ | ⟨rfl, rfl⟩ := hp
    · obtain ⟨rfl, rfl⟩ | ⟨rfl, rfl⟩ := hq
      · exact apart rfl
      · exact disjoint coarse
    · obtain ⟨rfl, rfl⟩ | ⟨rfl, rfl⟩ := hq
      · exact disjoint coarse.symm
      · exact apart rfl
  · intro none
    by_contra nothing
    have free := Option.not_isSome_iff_eq_none.1 nothing
    have apart : Clause.length o₁ b₁ ≠ .length o₂ b₂ := by simpa using different
    have peace := not_conflicts_of_contradiction?_eq_none free (mem_lengths_iff.2 (.inl rfl))
      (mem_lengths_iff.2 (.inr rfl)) apart
    simp only [conflicts, conflict, Clause.subject, BEq.rfl, Bool.true_and, Bool.not_eq_false',
      Interval.intersects_ofLength_iff] at peace
    exact none (peace.elim id HasCoarseLength.symm)

end Registry

namespace Catalog

/-- **Which contradictions of lengths are reported.**  Two different comparisons of a length cannot be
registered together exactly if no natural satisfies both as they are kept.  This is so exactly if no
length of 64 bits satisfies both, unless the pair is misjudged; and no pair with bounds below
`2 ^ 63 - 1` is. -/
theorem length_contradictions (c : Catalog) (name : Option String)
    (named : name.elim (.ok ()) c.registry.checkName = .ok ()) (o₁ o₂ : Comparison) (b₁ b₂ : UInt64)
    (different : (o₁, b₁) ≠ (o₂, b₂)) :
    let reported := ∃ first second,
      c.registerPattern name [.length o₁ b₁, .length o₂ b₂] [] =
        .error (.contradictory (name.getD Registry.inlineLabel) first second)
    (reported ↔ ¬HasCoarseLength o₁ b₁ o₂ b₂) ∧
      ((reported ↔ ¬HasCommonLength o₁ b₁ o₂ b₂) ↔ ¬Misjudged o₁ b₁ o₂ b₂) ∧
      (b₁.toNat < 2 ^ 63 - 1 → b₂.toNat < 2 ^ 63 - 1 →
        (reported ↔ ¬HasCommonLength o₁ b₁ o₂ b₂)) := by
  intro reported
  have coarse : reported ↔ ¬HasCoarseLength o₁ b₁ o₂ b₂ := by
    have checked : c.registry.checkReferences c.scope [.length o₁ b₁, .length o₂ b₂] = .ok () := rfl
    have united : c.registry.canonicalize [.length o₁ b₁, .length o₂ b₂] [] =
      .ok (ClauseSet.empty.extend [.length o₁ b₁, .length o₂ b₂]) := rfl
    rw [← Registry.contradiction?_lengths_iff (r := c.registry) different]
    simp only [reported, registerPattern_eq_error_iff, Registry.register_eq_contradictory_iff, named,
      checked, united, true_and, Except.ok.injEq, exists_eq_left', Option.isSome_iff_exists,
      Prod.exists]
  have exact_iff : (reported ↔ ¬HasCommonLength o₁ b₁ o₂ b₂) ↔ ¬Misjudged o₁ b₁ o₂ b₂ := by
    rw [coarse, not_iff_not, coarse_iff_common_iff]
  exact ⟨coarse, exact_iff, fun small₁ small₂ => exact_iff.2 (not_misjudged small₁ small₂)⟩

/-- More than five and less than six. -/
theorem length_contradictions_adjacent :
    (none : Option String).elim (.ok ()) empty.registry.checkName = .ok () ∧
      (Comparison.gt, (5 : UInt64)) ≠ (.lt, 6) ∧
      ∃ first second, empty.registerPattern none [.length .gt 5, .length .lt 6] [] =
        .error (.contradictory Registry.inlineLabel first second) := by
  have different : (Comparison.gt, (5 : UInt64)) ≠ (.lt, 6) := by decide
  refine ⟨rfl, different, ?_⟩
  have small := (length_contradictions empty none rfl .gt .lt 5 6 different).2.2
  refine (small (by decide) (by decide)).2 ?_
  rintro ⟨n, more, less⟩
  rw [Comparison.apply_iff_holds] at more less
  have more : 5 < n.toNat := more
  have less : n.toNat < 6 := less
  omega

/-- More than `2 ^ 63 - 1` and at most `2 ^ 63 - 1`: no length is both, and the two can be registered.
Exactly `2 ^ 63 + 1` and not `2 ^ 63`: one length is both, and the two cannot be registered. -/
theorem coarse_bounds_are_misjudged :
    ¬HasCommonLength .gt 9223372036854775807 .le 9223372036854775807 ∧
      (empty.registerPattern none
        [.length .gt 9223372036854775807, .length .le 9223372036854775807] []).isOk = true ∧
      HasCommonLength .eq 9223372036854775809 .ne 9223372036854775808 ∧
      (empty.registerPattern none
        [.length .eq 9223372036854775809, .length .ne 9223372036854775808] []).isOk = false := by
  refine ⟨?_, by decide +kernel, ⟨9223372036854775809, by decide +kernel, by decide +kernel⟩,
    by decide +kernel⟩
  rintro ⟨n, more, less⟩
  rw [Comparison.apply_iff_holds] at more less
  exact absurd more (not_lt.2 less)

end Catalog

end ProvenShapes
