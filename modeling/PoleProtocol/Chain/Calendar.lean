import PoleProtocol.Framework.Periods
import PoleProtocol.Chain.WellFormed

/-!
# The emission calendar

The year and month a block mints in are rolled over from the block before it. They are where the
genesis time and the block time alone put them, whatever blocks lie in between. What was minted
this month is a running count, and the one part of the state that does depend on those blocks.
-/

namespace PoleProtocol.Chain

open Framework

theorem secondsPerYear_pos : 0 < secondsPerYear := by decide

theorem secondsPerMonth_pos : 0 < secondsPerMonth := by decide

/-- The time of a block that begins. -/
def Input.blockTime : Input → Option ℤ
  | .beginBlock ctx => some ctx.blockTime
  | .deliver _ _ => none

/-- The times of the blocks that begin, in order. -/
def blockTimes (inputs : List Input) : List ℤ := inputs.filterMap Input.blockTime

/-- The time of the latest block, from a chain whose last one was at `t`. -/
def lastBlockTime : (t : ℤ) → List Input → ℤ
  | t, [] => t
  | _, .beginBlock ctx :: inputs => lastBlockTime ctx.blockTime inputs
  | t, .deliver _ _ :: inputs => lastBlockTime t inputs

/-- The last activity weight that a beginning block saw, or `weight` where none saw one. -/
def observedWeight (env : Env) : KeeperState → (weight : ℕ) → List Input → ℕ
  | _, weight, [] => weight
  | s, weight, .beginBlock ctx :: inputs =>
      observedWeight env (next env s (.beginBlock ctx))
        (if 0 < s.latestFinalizedEpochWeight then s.latestFinalizedEpochWeight else weight) inputs
  | s, weight, .deliver ctx msg :: inputs =>
      observedWeight env (next env s (.deliver ctx msg)) weight inputs

theorem lastBlockTime_append_beginBlock (t : ℤ) (inputs : List Input) (ctx : Ctx) :
    lastBlockTime t (inputs ++ [.beginBlock ctx]) = ctx.blockTime := by
  induction inputs generalizing t with
  | nil => rfl
  | cons input inputs ih =>
      cases input with
      | deliver ctx' msg => exact ih t
      | beginBlock ctx' => exact ih ctx'.blockTime

/-- Where the latest block lies, no block of an ordered chain lies later. -/
theorem le_lastBlockTime {t : ℤ} {inputs : List Input}
    (hordered : (t :: blockTimes inputs).IsChain (· ≤ ·)) : t ≤ lastBlockTime t inputs := by
  induction inputs generalizing t with
  | nil => exact le_rfl
  | cons input inputs ih =>
      cases input with
      | deliver ctx msg => exact ih hordered
      | beginBlock ctx =>
          have hsplit := List.isChain_cons_cons.mp hordered
          exact hsplit.1.trans (ih hsplit.2)

/-! ## One block -/

namespace AnnualEmissionState

variable {st : AnnualEmissionState} {g t t' : ℤ}

/-- The year and the month are those of time `t` in a chain that began at `g`. -/
structure OnCalendar (g t : ℤ) (st : AnnualEmissionState) : Prop where
  yearIndex : (st.yearIndex : ℤ) = 1 + periodIndex g secondsPerYear t
  yearStart : st.yearStartUnix = periodStart g secondsPerYear t
  monthStart : st.monthStartUnix = periodStart st.yearStartUnix secondsPerMonth t

theorem onCalendar_default (g : ℤ) : OnCalendar g g (defaultAnnualEmissionState g) where
  yearIndex := by rw [periodIndex_self]; rfl
  yearStart := (periodStart_self g secondsPerYear).symm
  monthStart := (periodStart_self g secondsPerMonth).symm

/-- A rolled year is the year of the new time, and its month is one of that year. -/
theorem advanceYear_onCalendar (h : OnCalendar g t st) (hg : g ≤ t) (hle : t ≤ t')
    (hrange : t' - g < 2 ^ 63) :
    ((st.advanceYear t').yearIndex : ℤ) = 1 + periodIndex g secondsPerYear t' ∧
      (st.advanceYear t').yearStartUnix = periodStart g secondsPerYear t' ∧
      ∃ u ≤ t', (st.advanceYear t').monthStartUnix =
        periodStart (st.advanceYear t').yearStartUnix secondsPerMonth u := by
  have hstart : st.yearStartUnix ≤ t' := by
    rw [h.yearStart]
    exact (periodStart_le secondsPerYear_pos).trans hle
  have helapsed : (t' - st.yearStartUnix).tdiv secondsPerYear =
      periodIndex g secondsPerYear t' - periodIndex g secondsPerYear t := by
    rw [tdiv_eq_periodIndex hstart, h.yearStart]
    exact periodIndex_periodStart secondsPerYear_pos
  have hmono : periodIndex g secondsPerYear t ≤ periodIndex g secondsPerYear t' :=
    periodIndex_mono secondsPerYear_pos hle
  have hindex := h.yearIndex
  unfold advanceYear
  simp only [helapsed]
  split
  · next hrolled =>
      refine ⟨?_, ?_, ?_⟩
      · have hnonneg := periodIndex_nonneg secondsPerYear_pos hg
        have hfits : periodIndex g secondsPerYear t' ≤ t' - g :=
          Int.ediv_le_self _ (by omega)
        have hword : st.yearIndex +
            (periodIndex g secondsPerYear t' - periodIndex g secondsPerYear t).toNat < 2 ^ 64 := by
          omega
        change ((wrap64 _ : ℕ) : ℤ) = _
        rw [wrap64_of_lt hword]
        omega
      · change st.yearStartUnix + _ = _
        rw [h.yearStart]
        exact periodStart_add g secondsPerYear t t'
      · refine ⟨_, ?_, (periodStart_self _ secondsPerMonth).symm⟩
        change st.yearStartUnix + _ ≤ t'
        rw [← helapsed, tdiv_eq_periodIndex hstart]
        exact periodStart_le secondsPerYear_pos
  · next hstays =>
      have hsame : periodIndex g secondsPerYear t' = periodIndex g secondsPerYear t := by omega
      refine ⟨by omega, ?_, t, hle, h.monthStart⟩
      rw [h.yearStart]
      exact (periodStart_eq_of_index hsame).symm

/-- A rolled month is the month of the new time. -/
theorem advanceMonth_monthStart {u : ℤ} (hu : u ≤ t')
    (h : st.monthStartUnix = periodStart st.yearStartUnix secondsPerMonth u) :
    (st.advanceMonth t').monthStartUnix = periodStart st.yearStartUnix secondsPerMonth t' := by
  have hstart : st.monthStartUnix ≤ t' := by
    rw [h]
    exact (periodStart_le secondsPerMonth_pos).trans hu
  have helapsed : (t' - st.monthStartUnix).tdiv secondsPerMonth =
      periodIndex st.monthStartUnix secondsPerMonth t' := tdiv_eq_periodIndex hstart
  have hrolled : st.monthStartUnix +
      periodIndex st.monthStartUnix secondsPerMonth t' * secondsPerMonth =
        periodStart st.yearStartUnix secondsPerMonth t' := by
    change periodStart st.monthStartUnix secondsPerMonth t' = _
    rw [h]
    exact periodStart_periodStart secondsPerMonth_pos
  have hnonneg := periodIndex_nonneg secondsPerMonth_pos hstart
  unfold advanceMonth
  simp only [helapsed]
  split
  · exact hrolled
  · next hstays =>
      have hzero : periodIndex st.monthStartUnix secondsPerMonth t' = 0 := by omega
      rw [hzero] at hrolled
      omega

theorem observeWeight_onCalendar (h : OnCalendar g t st) (latestWeight : ℕ) :
    OnCalendar g t (st.observeWeight latestWeight) := by
  unfold observeWeight
  split
  · exact { h with }
  · exact h

theorem observeWeight_prevEpochWeight (st : AnnualEmissionState) (latestWeight : ℕ) :
    (st.observeWeight latestWeight).prevEpochWeight =
      if 0 < latestWeight then latestWeight else st.prevEpochWeight := by
  unfold observeWeight
  split <;> rfl

theorem advance_prevEpochWeight (st : AnnualEmissionState) (t : ℤ) :
    ((st.advanceYear t).advanceMonth t).prevEpochWeight = st.prevEpochWeight := by
  unfold advanceMonth advanceYear
  simp only
  split <;> split <;> rfl

/-- Rolling the year and then the month over to a later time. -/
theorem advance_onCalendar (h : OnCalendar g t st) (hg : g ≤ t) (hle : t ≤ t')
    (hrange : t' - g < 2 ^ 63) : OnCalendar g t' ((st.advanceYear t').advanceMonth t') := by
  obtain ⟨hindex, hstart, u, hu, hmonth⟩ := advanceYear_onCalendar h hg hle hrange
  have hrolled := advanceMonth_monthStart hu hmonth
  have hyear : ((st.advanceYear t').advanceMonth t').yearIndex = (st.advanceYear t').yearIndex ∧
      ((st.advanceYear t').advanceMonth t').yearStartUnix = (st.advanceYear t').yearStartUnix := by
    rw [advanceMonth]
    split
    · exact ⟨rfl, rfl⟩
    · exact ⟨rfl, rfl⟩
  refine ⟨?_, ?_, ?_⟩
  · rw [hyear.1, hindex]
  · rw [hyear.2, hstart]
  · rw [hyear.2, hrolled]

end AnnualEmissionState

open AnnualEmissionState

namespace KeeperState

variable {env : Env} {ctx : Ctx} {s s' : KeeperState} {st : AnnualEmissionState}

/-- The emission state a block beginning at `t` mints from. -/
def currentEmission (s : KeeperState) (st : AnnualEmissionState) (t : ℤ) : AnnualEmissionState :=
  ((st.advanceYear t).advanceMonth t).observeWeight s.latestFinalizedEpochWeight

/-- A beginning block brings the emission state up to date, mints from it and books the amount. -/
theorem next_beginBlock (env : Env) (ctx : Ctx) (h : s.annualEmission = some st) :
    next env s (.beginBlock ctx) =
      { s with
        bank := s.bank.mintCoins
          ((s.currentEmission st ctx.blockTime).blockMint s.getParams ctx.blockTime)
        annualEmission := some { s.currentEmission st ctx.blockTime with
          mintedThisMonth := wrap64 ((s.currentEmission st ctx.blockTime).mintedThisMonth +
            (s.currentEmission st ctx.blockTime).blockMint s.getParams ctx.blockTime)
          lastMintUnix := ctx.blockTime } } := by
  apply attempt_of_ok
  simp only [step, beginBlockAnnualEmission, h, require, bind_eq_ok]
  exact ⟨st, rfl, rfl⟩

/-- Messages leave the emission state alone. -/
theorem next_deliver_annualEmission (env : Env) (s : KeeperState) (ctx : Ctx) (msg : Msg) :
    (next env s (.deliver ctx msg)).annualEmission = s.annualEmission := by
  refine next_preserves (P := fun s' => s'.annualEmission = s.annualEmission) ?_ rfl
  intro s' heffect
  cases heffect with
  | quiet => rfl
  | params => rfl
  | aggregate ctx msg record =>
      rcases refreshAggregatesCommitment_cases env (s.setAggregateRecord record) record.epochId with
        heq | ⟨_, _, _, heq⟩
      · rw [heq]
        rfl
      · rw [heq]
        rfl
  | commit => rfl
  | finalized => rfl
  | opened => rfl
  | resolved ctx msg stored settled slashed rewarded commit found authorized final settles slashes
      rewards =>
      obtain ⟨bank, records, hframe⟩ := resolution_frame settles slashes
      rw [← rewards, hframe]
      rfl
  | claimed => rfl
  | rewards ctx msg commit records =>
      obtain ⟨rewardRecords, hframe⟩ := setRewardRecords_frame s records
      rw [hframe]
  | burned => rfl
  | session => rfl
  | attested => rfl
  | settled => rfl

end KeeperState

/-! ## A run -/

/-- The emission state is that of a chain that began at `g`, last minted at `t` and last saw the
activity weight `weight`. -/
structure UpToDate (g t : ℤ) (weight : ℕ) (st : AnnualEmissionState) : Prop where
  calendar : OnCalendar g t st
  lastMint : st.lastMintUnix = t
  weight : st.prevEpochWeight = weight

section Run

variable {env : Env} {s : KeeperState} {st : AnnualEmissionState} {g t : ℤ} {weight : ℕ}

theorem upToDate_default (g : ℤ) : UpToDate g g 0 (defaultAnnualEmissionState g) where
  calendar := onCalendar_default g
  lastMint := rfl
  weight := rfl

/-- A beginning block that lies no earlier than the last one brings the state up to date. -/
theorem next_beginBlock_upToDate {ctx : Ctx} (hst : s.annualEmission = some st)
    (h : UpToDate g t weight st) (hg : g ≤ t) (hle : t ≤ ctx.blockTime)
    (hrange : ctx.blockTime - g < 2 ^ 63) :
    ∃ st', (next env s (.beginBlock ctx)).annualEmission = some st' ∧
      UpToDate g ctx.blockTime
        (if 0 < s.latestFinalizedEpochWeight then s.latestFinalizedEpochWeight else weight) st' := by
  have hadvanced := observeWeight_onCalendar (advance_onCalendar h.calendar hg hle hrange)
    s.latestFinalizedEpochWeight
  have hweight := observeWeight_prevEpochWeight
    ((st.advanceYear ctx.blockTime).advanceMonth ctx.blockTime) s.latestFinalizedEpochWeight
  rw [advance_prevEpochWeight, h.weight] at hweight
  rw [KeeperState.next_beginBlock env ctx hst]
  exact ⟨_, rfl, { hadvanced with }, rfl, hweight⟩

/-- Blocks in order keep the state up to date, whatever messages lie between them. -/
theorem run_upToDate (hst : s.annualEmission = some st) (h : UpToDate g t weight st) (hg : g ≤ t)
    {inputs : List Input} (hordered : (t :: blockTimes inputs).IsChain (· ≤ ·))
    (hrange : lastBlockTime t inputs - g < 2 ^ 63) :
    ∃ st', (run (next env) s inputs).annualEmission = some st' ∧
      UpToDate g (lastBlockTime t inputs) (observedWeight env s weight inputs) st' := by
  induction inputs generalizing s st t weight with
  | nil => exact ⟨st, hst, h⟩
  | cons input inputs ih =>
      cases input with
      | deliver ctx msg =>
          have hkept := KeeperState.next_deliver_annualEmission env s ctx msg
          exact ih (hkept.trans hst) h hg hordered hrange
      | beginBlock ctx =>
          obtain ⟨hle, hrest⟩ := List.isChain_cons_cons.mp hordered
          have hlater := le_lastBlockTime hrest
          change lastBlockTime ctx.blockTime inputs - g < 2 ^ 63 at hrange
          obtain ⟨st', hst', h'⟩ := next_beginBlock_upToDate hst h hg hle (by omega)
          exact ih hst' h' (hg.trans hle) hrest hrange

end Run

/-- After a block at time `t`, the year and the month are those of `t` in a chain that began at
`g`, the last minting is at `t`, and the activity weight is the last one a block saw. Unix times
are 64-bit words. -/
theorem emission_calendar (env : Env) (bank : Bank) (g : ℤ) (inputs : List Input) (ctx : Ctx)
    (hordered : (g :: blockTimes (inputs ++ [.beginBlock ctx])).IsChain (· ≤ ·))
    (hrange : ctx.blockTime - g < 2 ^ 63) :
    ∃ st, (run (next env) (defaultGenesis bank g) (inputs ++ [.beginBlock ctx])).annualEmission =
        some st ∧
      (st.yearIndex : ℤ) = 1 + (ctx.blockTime - g) / secondsPerYear ∧
      st.yearStartUnix = g + (st.yearIndex - 1) * secondsPerYear ∧
      st.monthStartUnix = st.yearStartUnix +
        secondsPerMonth * ((ctx.blockTime - st.yearStartUnix) / secondsPerMonth) ∧
      st.lastMintUnix = ctx.blockTime ∧
      st.prevEpochWeight =
        observedWeight env (defaultGenesis bank g) 0 (inputs ++ [.beginBlock ctx]) := by
  have hlast := lastBlockTime_append_beginBlock g inputs ctx
  have hstart : (defaultGenesis bank g).annualEmission = some (defaultAnnualEmissionState g) := rfl
  obtain ⟨st, hst, hcalendar, hmint, hweight⟩ :=
    @run_upToDate env _ _ _ _ _ hstart (upToDate_default g) le_rfl _ hordered (by rwa [hlast])
  rw [hlast] at hcalendar hmint
  refine ⟨st, hst, hcalendar.yearIndex, ?_, ?_, hmint, hweight⟩
  · rw [hcalendar.yearStart, hcalendar.yearIndex, periodStart]
    ring
  · rw [mul_comm]
    exact hcalendar.monthStart

namespace Sample

/-- A block that begins at a time. -/
def block (blockTime : ℤ) : Input := .beginBlock { ctx 1 with blockTime }

end Sample

open Sample in
/-- A block one year, one month and a second after genesis. -/
theorem emission_calendar_second_year :
    ((0 : ℤ) :: blockTimes ([block 5] ++ [block 33696001])).IsChain (· ≤ ·) ∧
      ∃ st, (run (next env) genesis ([block 5] ++ [block 33696001])).annualEmission = some st ∧
        (st.yearIndex : ℤ) = 1 + (33696001 - 0) / secondsPerYear := by
  have hordered : ((0 : ℤ) :: blockTimes ([block 5] ++ [block 33696001])).IsChain (· ≤ ·) := by
    decide
  obtain ⟨st, hst, hindex, _⟩ :=
    emission_calendar env bank 0 [block 5] { ctx 1 with blockTime := 33696001 } hordered (by decide)
  exact ⟨hordered, st, hst, hindex⟩

open Sample in
/-- The count of what was minted this month depends on the blocks in between: a block at genesis
time counts as a second of its own. -/
theorem emission_state_depends_on_blocks :
    ¬ ∀ (env : Env) (bank : Bank) (g : ℤ) (first second : List Input) (ctx : Ctx),
      (g :: blockTimes (first ++ [.beginBlock ctx])).IsChain (· ≤ ·) →
      (g :: blockTimes (second ++ [.beginBlock ctx])).IsChain (· ≤ ·) →
      observedWeight env (defaultGenesis bank g) 0 (first ++ [.beginBlock ctx]) =
        observedWeight env (defaultGenesis bank g) 0 (second ++ [.beginBlock ctx]) →
      (run (next env) (defaultGenesis bank g) (first ++ [.beginBlock ctx])).annualEmission =
        (run (next env) (defaultGenesis bank g) (second ++ [.beginBlock ctx])).annualEmission := by
  intro hdepends
  have hsame := hdepends env bank 0 [] [block 0] { ctx 1 with blockTime := 10 }
    (by decide) (by decide) (by decide)
  exact absurd hsame (by decide)

end PoleProtocol.Chain
