import PoleProtocol.Chain.Finality

/-!
# Settlement of challenge bonds

A bond is escrowed by an accepted opening and settled by an accepted resolution of the stored
challenge. The store keeps challenges by a caller-chosen id only, so this module follows every
bond in a book beside the state: which opening made it, whether the store still leads to it, and
how often it was settled.
-/

namespace PoleProtocol.Chain

open Framework OrderedMap KeeperState

/-! ## The book of bonds -/

/-- One escrowed bond. It is live while the store holds the challenge it was escrowed for. -/
structure Bond where
  id : String
  amount : ℕ
  live : Bool := true
  settlements : ℕ := 0
  deriving DecidableEq

/-- A new opening under the same id displaces the bond. -/
def Bond.displace (id : String) (bond : Bond) : Bond :=
  if bond.id = id then { bond with live := false } else bond

/-- A resolution of an id settles the live bond of that id. -/
def Bond.settle (id : String) (bond : Bond) : Bond :=
  if bond.id = id ∧ bond.live = true then { bond with settlements := bond.settlements + 1 }
  else bond

/-- The state together with its bonds, in the order they were escrowed, and the totals escrowed
and paid out by settlements. -/
structure BondBook where
  state : KeeperState
  bonds : List Bond := []
  escrowed : ℕ := 0
  paid : ℕ := 0

/-- What settling the bond of a challenge pays: the coins that leave the pool, as a refund or
burnt. -/
def settlementPaid (env : Env) (s : KeeperState) (challenge : Challenge) : ℕ :=
  match s.settleChallengeBond env challenge with
  | .ok settled => s.bank.pool - settled.bank.pool
  | .error _ => 0

namespace BondBook

/-- Book an accepted opening. -/
def recordOpening (book : BondBook) (challenge : Challenge) : BondBook :=
  { book with
    bonds := book.bonds.map (·.displace challenge.challengeIdHex) ++
      [{ id := challenge.challengeIdHex, amount := challenge.bondAmount.toNat }]
    escrowed := book.escrowed + challenge.bondAmount.toNat }

/-- Book an accepted resolution. -/
def recordResolution (env : Env) (book : BondBook) (msg : MsgResolveChallenge) : BondBook :=
  match book.state.challenges[msg.challengeIdHex]? with
  | none => book
  | some stored =>
      { book with
        bonds := book.bonds.map (·.settle msg.challengeIdHex)
        paid := book.paid + settlementPaid env book.state (stored.resolvedBy msg) }

end BondBook

/-- The messages that move bonds. -/
inductive BondMessage where
  | opening (ctx : Ctx) (msg : MsgOpenChallenge)
  | resolution (ctx : Ctx) (msg : MsgResolveChallenge)

def BondMessage.input : BondMessage → Input
  | .opening ctx msg => .deliver ctx (.openChallenge msg)
  | .resolution ctx msg => .deliver ctx (.resolveChallenge msg)

namespace BondBook

def record (env : Env) (book : BondBook) : BondMessage → BondBook
  | .opening ctx msg =>
      match msg.challenge with
      | none => book
      | some challenge => book.recordOpening (challenge.opened ctx)
  | .resolution _ msg => book.recordResolution env msg

/-- Deliver a message to the state and book what it does to bonds. -/
def next (env : Env) (book : BondBook) (message : BondMessage) : BondBook :=
  match step env book.state message.input with
  | .error _ => book
  | .ok s' => { book.record env message with state := s' }

end BondBook

variable {env : Env} {s s' : KeeperState} {book : BondBook} {message : BondMessage}

/-- The book only observes: its state is the machine's. -/
theorem BondBook.next_state (env : Env) (book : BondBook) (message : BondMessage) :
    (book.next env message).state = Chain.next env book.state message.input := by
  unfold BondBook.next Chain.next attempt
  cases step env book.state message.input <;> rfl

theorem BondBook.run_state (env : Env) (book : BondBook) (messages : List BondMessage) :
    (run (BondBook.next env) book messages).state =
      run (Chain.next env) book.state (messages.map BondMessage.input) := by
  induction messages generalizing book with
  | nil => rfl
  | cons message messages ih =>
      rw [run_cons, List.map_cons, run_cons, ih, BondBook.next_state]

/-! ## When a bond can be settled -/

/-- Some resolution by the authority settles the bond. -/
def Settleable (env : Env) (s : KeeperState) (bond : Bond) : Prop :=
  bond.live = true ∧ ∃ ctx msg s', msg.challengeIdHex = bond.id ∧
    s.resolveChallenge env ctx msg = .ok s'

/-- The checks of a resolution that do not concern its bond. -/
structure Resolvable (env : Env) (s : KeeperState) (stored : Challenge) : Prop where
  evidence : s.validateChallengeEvidence env stored = .ok ()
  target : s.validateChallengeTarget stored = .ok ()
  validator : ∃ (ctx : Ctx) (resolver : String) (fraction : ℕ) (jail : Bool),
    ctx.isAuthority resolver = true ∧
      applyValidatorSlash env ctx stored.targetConsAddress fraction jail = .ok ()
  committed : ∃ commit : EpochCommit, s.epochCommits[stored.epochId]? = some commit

/-- A stored bond can be settled one way or the other: it is returned when the pool covers it and
forfeited when the pool is short. -/
theorem settles_some_way (s : KeeperState) {stored : Challenge}
    (haddress : stored.bondAmount ≠ 0 → ∃ address,
      env.accAddressFromBech32 stored.challenger = .ok address) :
    ∃ finalState, finalState ≠ .unspecified ∧ ∀ msg : MsgResolveChallenge,
      msg.finalState = finalState →
      ∃ settled, s.settleChallengeBond env (stored.resolvedBy msg) = .ok settled := by
  by_cases hskip : stored.bondAmount = 0 ∨ stored.challenger = ""
  · exact ⟨.resolved, by decide, fun msg _ => ⟨s, if_pos hskip⟩⟩
  have hsettled : ∀ (msg : MsgResolveChallenge) (result : Bank × ℕ),
      s.bank.settleChallengeBond env stored.challenger stored.bondAmount.toNat
        s.getParams.challengeBondBurnBps (decide (msg.finalState = .rejected)) = .ok result →
      ∃ settled, s.settleChallengeBond env (stored.resolvedBy msg) = .ok settled := by
    intro msg result hresult
    have hresolved : ¬ ((stored.resolvedBy msg).bondAmount = 0 ∨
        (stored.resolvedBy msg).challenger = "") := hskip
    refine ⟨{ s with bank := result.1 }, ?_⟩
    rw [KeeperState.settleChallengeBond, if_neg hresolved]
    change (s.bank.settleChallengeBond env stored.challenger stored.bondAmount.toNat
      s.getParams.challengeBondBurnBps (decide (msg.finalState = .rejected)) >>= _) = _
    rw [hresult]
    rfl
  by_cases hfunds : stored.bondAmount.toNat ≤ s.bank.pool
  · obtain ⟨address, haddress⟩ := haddress fun h => hskip (.inl h)
    obtain ⟨result, hresult⟩ := Bank.settleChallengeBond_refunds
      s.getParams.challengeBondBurnBps hfunds haddress
    refine ⟨.resolved, by decide, fun msg hfinal => hsettled msg result ?_⟩
    rw [hfinal]
    exact hresult
  · -- a pool below the bond is below the word size, so the forfeiture cannot panic
    have hword : s.bank.pool < 2 ^ 64 := by
      have := stored.bondAmount.toNat_lt
      omega
    obtain ⟨result, hresult⟩ := Bank.settleChallengeBond_forfeits env stored.challenger
      stored.bondAmount.toNat s.getParams.challengeBondBurnBps hword
    refine ⟨.rejected, by decide, fun msg hfinal => hsettled msg result ?_⟩
    rw [hfinal]
    exact hresult

theorem resolvable_of_settleable {bond : Bond} {stored : Challenge}
    (h : Settleable env s bond) (hstored : s.challenges[bond.id]? = some stored) :
    Resolvable env s stored := by
  obtain ⟨_, ctx, msg, s', hid, hresolve⟩ := h
  obtain ⟨found, _, _, commit, hfound, hauthority, _, hevidence, htarget, hvalidator, _, _,
    hcommit, _⟩ := resolveChallenge_ok hresolve
  rw [hid, hstored] at hfound
  cases hfound
  exact ⟨hevidence, htarget, ⟨ctx, msg.resolver, _, _, hauthority, hvalidator⟩, commit, hcommit⟩

theorem settleable_of_resolvable {bond : Bond} {stored : Challenge} (hlive : bond.live = true)
    (hstored : s.challenges[bond.id]? = some stored)
    (haddress : stored.bondAmount ≠ 0 → ∃ address,
      env.accAddressFromBech32 stored.challenger = .ok address)
    (h : Resolvable env s stored) : Settleable env s bond := by
  obtain ⟨ctx, resolver, fraction, jail, hauthority, hvalidator⟩ := h.validator
  obtain ⟨commit, hcommit⟩ := h.committed
  obtain ⟨finalState, hfinal, hsettles⟩ := settles_some_way s haddress
  let msg : MsgResolveChallenge :=
    { resolver, challengeIdHex := bond.id, finalState, slashFractionBps := fraction
      jailValidator := jail }
  obtain ⟨settled, hsettled⟩ := hsettles msg rfl
  obtain ⟨bank, hframe⟩ := settleChallengeBond_frame hsettled
  have hslash : settled.slashTarget (stored.resolvedBy msg) = .ok settled := if_pos (.inr rfl)
  have hreward : settled.rewardChallenger (stored.resolvedBy msg) = settled := if_pos (.inr rfl)
  have hcommitted : settled.getEpochCommit stored.epochId = .ok commit := by
    rw [hframe, getEpochCommit, require_eq_ok]
    exact hcommit
  have hevidence : s.validateChallengeEvidence env (stored.resolvedBy msg) = .ok () := h.evidence
  have htarget : s.validateChallengeTarget (stored.resolvedBy msg) = .ok () := h.target
  have hresolved : s.resolveChallenge env ctx msg = .ok
      ((settled.setEpochCommit (settled.recomputedCommit env stored.epochId commit)).setChallenge
        (stored.resolvedBy msg)) := by
    have hfound : s.getChallenge msg.challengeIdHex = .ok stored := by
      rw [getChallenge, require_eq_ok]
      exact hstored
    simp only [resolveChallenge, applyChallengeRewardEffects, recomputeEpochCommitments,
      bind_eq_ok, ensure_eq_ok, exists_const, pure_eq_ok]
    exact ⟨hauthority, stored, hfound, hfinal, (), hevidence, (), htarget, (), hvalidator, settled,
      hsettled, settled, ⟨settled, hslash, hreward⟩, _, ⟨commit, hcommitted, rfl⟩, rfl⟩
  exact ⟨hlive, ctx, msg, _, rfl, hresolved⟩

/-- The evidence of the challenge names a root that resolutions recompute. -/
def CitesRoot (challenge : Challenge) : Prop :=
  challenge.evidence ≠ none ∧ (challenge.kind = .badReward ∨ challenge.kind = .badAggregate)

instance (challenge : Challenge) : Decidable (CitesRoot challenge) :=
  inferInstanceAs (Decidable (_ ∧ _))

/-- Evidence is judged by the commit and the records of its own epoch. -/
theorem validateChallengeEvidence_congr {challenge : Challenge}
    (hcommit : s'.epochCommits[challenge.epochId]? = s.epochCommits[challenge.epochId]?)
    (hrewards : s'.rewardRecordsForEpoch challenge.epochId =
      s.rewardRecordsForEpoch challenge.epochId)
    (hbatches : s'.batchCommits = s.batchCommits) (havailability : s'.availability = s.availability)
    (haggregates : s'.aggregateRecords = s.aggregateRecords) :
    s'.validateChallengeEvidence env challenge = s.validateChallengeEvidence env challenge := by
  simp only [validateChallengeEvidence, getEpochCommit, hcommit, hrewards, batchCommitsForEpoch,
    hbatches, availabilityRecordsForEpoch, havailability, aggregateRecordsForEpoch, haggregates]

/-- Evidence that names no recomputed root survives a recomputation of its epoch. -/
theorem validateChallengeEvidence_recomputed {challenge : Challenge} {commit : EpochCommit}
    (huncited : ¬ CitesRoot challenge)
    (hcommit : s.epochCommits[challenge.epochId]? = some commit)
    (hcommit' : s'.epochCommits[challenge.epochId]? =
      some (s'.recomputedCommit env challenge.epochId commit))
    (hbatches : s'.batchCommits = s.batchCommits) (havailability : s'.availability = s.availability)
    (h : s.validateChallengeEvidence env challenge = .ok ()) :
    s'.validateChallengeEvidence env challenge = .ok () := by
  unfold validateChallengeEvidence at h ⊢
  cases hevidence : challenge.evidence with
  | none => rfl
  | some evidence =>
      have hkind : challenge.kind ≠ .badReward ∧ challenge.kind ≠ .badAggregate := by
        constructor
        · intro hkind
          exact huncited ⟨by simp [hevidence], .inl hkind⟩
        · intro hkind
          exact huncited ⟨by simp [hevidence], .inr hkind⟩
      simp only [hevidence, getEpochCommit, hcommit, hcommit', require, ok_bind] at h ⊢
      cases hcase : challenge.kind with
      | badReward => exact absurd hcase hkind.1
      | badAggregate => exact absurd hcase hkind.2
      | badBatch =>
          simp only [hcase, batchCommitsForEpoch, hbatches] at h ⊢
          exact h
      | badStorage =>
          simp only [hcase, availabilityRecordsForEpoch, havailability] at h ⊢
          exact h
      | unspecified | omission | other => rfl

/-! ## Steps -/

/-- A bond that is settled, or still can be. -/
def Bond.Safe (env : Env) (s : KeeperState) (bond : Bond) : Prop :=
  0 < bond.settlements ∨ Settleable env s bond

/-- An opening uses a new id. A resolution names a challenge that was not resolved before, and
recomputes no root that the evidence of another unsettled challenge names. -/
def SettlesOnce (env : Env) (book : BondBook) : BondMessage → Prop
  | .opening _ msg =>
      ∀ challenge ∈ msg.challenge, book.state.challenges[challenge.challengeIdHex]? = none
  | .resolution _ msg =>
      (∀ bond ∈ book.bonds, bond.id = msg.challengeIdHex → bond.settlements = 0) ∧
      ∀ stored ∈ book.state.challenges[msg.challengeIdHex]?,
        ResolvesQuietly env book.state msg stored ∨
        ∀ bond ∈ book.bonds, bond.settlements = 0 → bond.id ≠ msg.challengeIdHex →
          ∀ other ∈ book.state.challenges[bond.id]?, other.epochId = stored.epochId →
            ¬ CitesRoot other

instance (env : Env) (book : BondBook) : ∀ message, Decidable (SettlesOnce env book message)
  | .opening _ msg => inferInstanceAs (Decidable (∀ challenge ∈ msg.challenge, _))
  | .resolution _ _ => inferInstanceAs (Decidable (_ ∧ _))

/-- The condition is asked of accepted messages. -/
def SettlesOnceIfAccepted (env : Env) (book : BondBook) (message : BondMessage) : Prop :=
  Accepts (step env) book.state message.input → SettlesOnce env book message

instance (env : Env) (book : BondBook) (message : BondMessage) :
    Decidable (SettlesOnceIfAccepted env book message) :=
  inferInstanceAs (Decidable (_ → _))

def Bond.settledAmount (bond : Bond) : ℕ := if bond.settlements = 0 then 0 else bond.amount

/-- The book agrees with the store: every bond is live and stored with its amount, every stored
challenge has a bond, no bond is settled twice, and the totals are those of the bonds. -/
structure BondBook.Sound (env : Env) (book : BondBook) : Prop where
  wellFormed : WellFormed book.state
  live : ∀ bond ∈ book.bonds, bond.live = true
  stored : ∀ bond ∈ book.bonds, ∃ challenge : Challenge,
    book.state.challenges[bond.id]? = some challenge ∧
      challenge.bondAmount.toNat = bond.amount ∧
      (challenge.bondAmount ≠ 0 → ∃ address,
        env.accAddressFromBech32 challenge.challenger = .ok address)
  booked : ∀ (id : String) (challenge : Challenge), book.state.challenges[id]? = some challenge →
    ∃ bond ∈ book.bonds, bond.id = id
  once : ∀ bond ∈ book.bonds, bond.settlements ≤ 1
  escrowed : book.escrowed = (book.bonds.map (·.amount)).sum
  paid : book.paid ≤ (book.bonds.map (·.settledAmount)).sum

theorem settlementPaid_le (env : Env) (s : KeeperState) (challenge : Challenge) :
    settlementPaid env s challenge ≤ challenge.bondAmount.toNat := by
  unfold settlementPaid
  split
  · next settled hsettles =>
      obtain ⟨bank, rfl, hpool⟩ := settleChallengeBond_ok hsettles
      change s.bank.pool - bank.pool ≤ _
      omega
  · exact Nat.zero_le _

/-- Raising the summands, one of them by `d`, raises the sum by `d`. -/
private theorem sum_map_add_le {α : Type} {l : List α} {f g : α → ℕ} {d : ℕ}
    (hle : ∀ x ∈ l, f x ≤ g x) {x : α} (hx : x ∈ l) (hd : f x + d ≤ g x) :
    (l.map f).sum + d ≤ (l.map g).sum := by
  induction l with
  | nil => cases hx
  | cons y l ih =>
      simp only [List.map_cons, List.sum_cons]
      have hhead := hle y List.mem_cons_self
      have htail : ∀ z ∈ l, f z ≤ g z := fun z hz => hle z (List.mem_cons_of_mem y hz)
      rcases List.mem_cons.mp hx with rfl | hx
      · have hsum : (l.map f).sum ≤ (l.map g).sum := List.sum_le_sum htail
        omega
      · have hsum := ih htail hx
        omega

@[simp] theorem Bond.settle_id (id : String) (bond : Bond) : (bond.settle id).id = bond.id := by
  unfold Bond.settle
  split <;> rfl

@[simp] theorem Bond.settle_live (id : String) (bond : Bond) :
    (bond.settle id).live = bond.live := by
  unfold Bond.settle
  split <;> rfl

@[simp] theorem Bond.settle_amount (id : String) (bond : Bond) :
    (bond.settle id).amount = bond.amount := by
  unfold Bond.settle
  split <;> rfl

theorem Bond.settle_of_ne {id : String} {bond : Bond} (h : bond.id ≠ id) : bond.settle id = bond :=
  if_neg fun hand => h hand.1

theorem Bond.settle_of_eq {id : String} {bond : Bond} (hlive : bond.live = true)
    (h : bond.id = id) : bond.settle id = { bond with settlements := bond.settlements + 1 } :=
  if_pos ⟨h, hlive⟩

namespace BondBook.Sound

/-- An opening under a new id displaces no bond. -/
theorem bonds_opening (h : book.Sound env) {challenge : Challenge}
    (hfresh : book.state.challenges[challenge.challengeIdHex]? = none) :
    (book.recordOpening challenge).bonds = book.bonds ++
      [{ id := challenge.challengeIdHex, amount := challenge.bondAmount.toNat }] := by
  have hsame : book.bonds.map (·.displace challenge.challengeIdHex) = book.bonds := by
    refine (List.map_congr_left fun bond hbond => ?_).trans (List.map_id _)
    obtain ⟨stored, hstored, _⟩ := h.stored bond hbond
    refine if_neg fun hid => ?_
    rw [hid, hfresh] at hstored
    cases hstored
  unfold BondBook.recordOpening
  rw [hsame]

theorem opening (h : book.Sound env) {ctx : Ctx} {challenge : Challenge} {bank : Bank}
    (hfresh : book.state.challenges[challenge.challengeIdHex]? = none)
    (hwf : WellFormed ({ book.state with bank }.setChallenge (challenge.opened ctx)))
    (hescrow : book.state.bank.escrowChallengeBond env challenge.challenger
      challenge.bondAmount.toNat = .ok bank) :
    Sound env { book.recordOpening (challenge.opened ctx) with
      state := { book.state with bank }.setChallenge (challenge.opened ctx) } := by
  have hfresh' : book.state.challenges[(challenge.opened ctx).challengeIdHex]? = none := hfresh
  have hbonds := h.bonds_opening hfresh'
  have haddress : challenge.bondAmount ≠ 0 → ∃ address,
      env.accAddressFromBech32 challenge.challenger = .ok address := by
    intro hne
    exact (Bank.escrowChallengeBond_ok hescrow).2 fun hzero => hne (UInt64.toNat_inj.mp hzero)
  have hother : ∀ bond ∈ book.bonds, (challenge.opened ctx).challengeIdHex ≠ bond.id := by
    intro bond hbond hid
    obtain ⟨stored, hstored, _⟩ := h.stored bond hbond
    rw [← hid, hfresh'] at hstored
    cases hstored
  refine ⟨hwf, ?_, ?_, ?_, ?_, ?_, ?_⟩
  all_goals simp only [hbonds]
  · intro bond hbond
    rcases List.mem_append.mp hbond with hold | hnew
    · exact h.live bond hold
    · rw [List.mem_singleton.mp hnew]
  · intro bond hbond
    change ∃ stored : Challenge, (book.state.challenges.insert
      (challenge.opened ctx).challengeIdHex (challenge.opened ctx))[bond.id]? = some stored ∧ _
    rcases List.mem_append.mp hbond with hold | hnew
    · rw [get_insert_ne _ _ (hother bond hold)]
      exact h.stored bond hold
    · rw [List.mem_singleton.mp hnew]
      exact ⟨challenge.opened ctx, get_insert_self _ _ _, rfl, haddress⟩
  · intro id stored hget
    change (book.state.challenges.insert (challenge.opened ctx).challengeIdHex
      (challenge.opened ctx))[id]? = some stored at hget
    rw [get_insert] at hget
    split at hget
    · next hid => exact ⟨_, List.mem_append_right _ (List.mem_singleton_self _), hid⟩
    · obtain ⟨bond, hbond, hid⟩ := h.booked id stored hget
      exact ⟨bond, List.mem_append_left _ hbond, hid⟩
  · intro bond hbond
    rcases List.mem_append.mp hbond with hold | hnew
    · exact h.once bond hold
    · rw [List.mem_singleton.mp hnew]
      exact Nat.zero_le _
  · change book.escrowed + _ = _
    rw [List.map_append, List.sum_append, h.escrowed]
    rfl
  · change book.paid ≤ _
    rw [List.map_append, List.sum_append]
    exact h.paid.trans (Nat.le_add_right _ _)

theorem resolution (h : book.Sound env) {msg : MsgResolveChallenge} {stored : Challenge}
    (hfound : book.state.challenges[msg.challengeIdHex]? = some stored)
    (hunsettled : ∀ bond ∈ book.bonds, bond.id = msg.challengeIdHex → bond.settlements = 0)
    (hwf : WellFormed s')
    (hchallenges : s'.challenges =
      book.state.challenges.insert msg.challengeIdHex (stored.resolvedBy msg)) :
    Sound env { book.recordResolution env msg with state := s' } := by
  have hrecord : book.recordResolution env msg = { book with
      bonds := book.bonds.map (·.settle msg.challengeIdHex)
      paid := book.paid + settlementPaid env book.state (stored.resolvedBy msg) } := by
    unfold BondBook.recordResolution
    rw [hfound]
  rw [hrecord]
  refine ⟨hwf, ?_, ?_, ?_, ?_, ?_, ?_⟩
  · intro bond' hbond'
    obtain ⟨bond, hbond, rfl⟩ := List.mem_map.mp hbond'
    rw [Bond.settle_live]
    exact h.live bond hbond
  · intro bond' hbond'
    obtain ⟨bond, hbond, rfl⟩ := List.mem_map.mp hbond'
    obtain ⟨challenge, hchallenge, hamount, haddress⟩ := h.stored bond hbond
    rw [Bond.settle_id, Bond.settle_amount]
    change ∃ challenge : Challenge, s'.challenges[bond.id]? = some challenge ∧ _
    rw [hchallenges]
    by_cases hid : msg.challengeIdHex = bond.id
    · rw [← hid, hfound] at hchallenge
      cases hchallenge
      rw [← hid]
      exact ⟨stored.resolvedBy msg, get_insert_self _ _ _, hamount, haddress⟩
    · rw [get_insert_ne _ _ hid]
      exact ⟨challenge, hchallenge, hamount, haddress⟩
  · intro id challenge hget
    have hold : ∃ challenge : Challenge, book.state.challenges[id]? = some challenge := by
      change s'.challenges[id]? = some challenge at hget
      rw [hchallenges, get_insert] at hget
      split at hget
      · next hid => exact ⟨stored, hid ▸ hfound⟩
      · exact ⟨challenge, hget⟩
    obtain ⟨old, hold⟩ := hold
    obtain ⟨bond, hbond, hid⟩ := h.booked id old hold
    exact ⟨bond.settle msg.challengeIdHex, List.mem_map_of_mem hbond, by rw [Bond.settle_id, hid]⟩
  · intro bond' hbond'
    obtain ⟨bond, hbond, rfl⟩ := List.mem_map.mp hbond'
    by_cases hid : bond.id = msg.challengeIdHex
    · rw [Bond.settle_of_eq (h.live bond hbond) hid, hunsettled bond hbond hid]
    · rw [Bond.settle_of_ne hid]
      exact h.once bond hbond
  · change book.escrowed = _
    rw [h.escrowed, List.map_map]
    congr 1
    exact List.map_congr_left fun bond _ => (Bond.settle_amount _ _).symm
  · -- the bond of the resolved challenge was unsettled and covers the payment
    obtain ⟨bond, hbond, hid⟩ := h.booked _ _ hfound
    obtain ⟨challenge, hchallenge, hamount, _⟩ := h.stored bond hbond
    rw [hid, hfound] at hchallenge
    cases hchallenge
    have hzero := hunsettled bond hbond hid
    have hpayment : settlementPaid env book.state (stored.resolvedBy msg) ≤ bond.amount :=
      hamount ▸ settlementPaid_le env book.state (stored.resolvedBy msg)
    have hraise : (book.bonds.map (·.settledAmount)).sum + bond.amount ≤
        (book.bonds.map fun b => (b.settle msg.challengeIdHex).settledAmount).sum := by
      refine sum_map_add_le ?_ hbond ?_
      · intro other hother
        by_cases hsame : other.id = msg.challengeIdHex
        · simp [Bond.settledAmount, hunsettled other hother hsame]
        · rw [Bond.settle_of_ne hsame]
      · rw [Bond.settle_of_eq (h.live bond hbond) hid]
        simp [Bond.settledAmount, hzero]
    have hpaid := h.paid
    change book.paid + _ ≤ _
    rw [List.map_map]
    change _ ≤ (book.bonds.map fun b => (b.settle msg.challengeIdHex).settledAmount).sum
    omega

end BondBook.Sound

/-! ## Bonds stay settleable -/

namespace Resolvable

variable {stored other : Challenge} {msg : MsgResolveChallenge}

theorem opening (h : Resolvable env s stored) (bank : Bank) (challenge : Challenge) :
    Resolvable env ({ s with bank }.setChallenge challenge) stored :=
  ⟨h.evidence, h.target, h.validator, h.committed⟩

/-- The resolution of another challenge leaves a challenge resolvable unless it recomputes a root
that this challenge's evidence names. -/
theorem resolution (hwf : WellFormed s) {settled slashed : KeeperState} {commit : EpochCommit}
    (hother : ResolvesQuietly env s msg stored ∨
      (other.epochId = stored.epochId → ¬ CitesRoot other))
    (hsettles : s.settleChallengeBond env (stored.resolvedBy msg) = .ok settled)
    (hslashes : settled.slashTarget (stored.resolvedBy msg) = .ok slashed)
    (hcommitted : s.epochCommits[stored.epochId]? = some commit) (h : Resolvable env s other) :
    let rewarded := slashed.rewardChallenger (stored.resolvedBy msg)
    Resolvable env ((rewarded.setEpochCommit
      (rewarded.recomputedCommit env stored.epochId commit)).setChallenge
        (stored.resolvedBy msg)) other := by
  intro rewarded
  have hkey : commit.epochId = stored.epochId := hwf.commits _ _ hcommitted
  obtain ⟨bank, records, hframe⟩ := resolution_frame hsettles hslashes
  have hrewarded : rewarded = { s with bank, rewardRecords := records } := hframe
  have hwritten : ∀ e, ((rewarded.setEpochCommit
      (rewarded.recomputedCommit env stored.epochId commit)).setChallenge
        (stored.resolvedBy msg)).epochCommits[e]? =
      if stored.epochId = e then some (rewarded.recomputedCommit env stored.epochId commit)
      else s.epochCommits[e]? := by
    intro e
    change (rewarded.setEpochCommit
      (rewarded.recomputedCommit env stored.epochId commit)).epochCommits[e]? = _
    rw [setEpochCommit_get, recomputedCommit_epochId, hkey, hrewarded]
  refine ⟨?_, ?_, h.validator, ?_⟩
  · by_cases hepoch : stored.epochId = other.epochId
    · rcases hother with ⟨hslash, hreward, hroots⟩ | huncited
      · -- nothing moved, and the recomputed commit is the stored one
        obtain ⟨bank', hquiet⟩ := quietResolution_frame hslash hreward hsettles hslashes
        have hquiet' : rewarded = { s with bank := bank' } := hquiet
        have hcommit : rewarded.recomputedCommit env stored.epochId commit = commit := by
          rw [hquiet']
          exact validateEpochRoots_iff.mp (hroots commit hcommitted)
        rw [validateChallengeEvidence_congr (s := s) _ _ _ _ _]
        · exact h.evidence
        · rw [hwritten, if_pos hepoch, hcommit, ← hepoch, hcommitted]
        · rw [hquiet']
          rfl
        all_goals rw [hquiet']; rfl
      · rw [hepoch] at hcommitted
        refine validateChallengeEvidence_recomputed (huncited hepoch.symm) hcommitted ?_ ?_ ?_
          h.evidence
        · rw [hwritten, if_pos hepoch, hepoch]
          rfl
        all_goals rw [hrewarded]; rfl
    · have hrecords : (stored.resolvedBy msg).epochId ≠ other.epochId := hepoch
      have hrewards := rewardRecordsForEpoch_resolution hwf hrecords hsettles hslashes
      rw [validateChallengeEvidence_congr (s := s) _ _ _ _ _]
      · exact h.evidence
      · rw [hwritten, if_neg hepoch]
      · exact hrewards
      all_goals rw [hrewarded]; rfl
  · rw [hrewarded]
    exact h.target
  · obtain ⟨found, hfound⟩ := h.committed
    rw [hwritten]
    split
    · exact ⟨_, rfl⟩
    · exact ⟨found, hfound⟩

end Resolvable

namespace BondBook

theorem Sound.next (h : book.Sound env) (hcond : SettlesOnceIfAccepted env book message) :
    (book.next env message).Sound env := by
  unfold BondBook.next
  cases hs : step env book.state message.input with
  | error e => exact h
  | ok s' =>
      have hsettles := hcond (accepts_iff.mpr ⟨s', hs⟩)
      have hwf : WellFormed s' := wellFormed_of_effect (effect_of_step hs) h.wellFormed
      cases message with
      | opening ctx msg =>
          obtain ⟨challenge, bank, hsupplied, _, hescrow, rfl⟩ := openChallenge_ok hs
          have hfresh := hsettles challenge hsupplied
          simp only [BondBook.record, hsupplied]
          exact h.opening hfresh hwf hescrow
      | resolution ctx msg =>
          obtain ⟨stored, settled, slashed, _, hfound, _, _, _, _, _, hpays, hslashes, _, rfl⟩ :=
            resolveChallenge_ok hs
          obtain ⟨bank, records, hframe⟩ := resolution_frame hpays hslashes
          refine h.resolution hfound hsettles.1 hwf ?_
          have hid : stored.challengeIdHex = msg.challengeIdHex :=
            h.wellFormed.challenges _ _ hfound
          rw [hframe, ← hid]
          rfl

/-- A bond that is settled or can be settled is so after the next message. -/
theorem Sound.safe_next (h : book.Sound env) (hcond : SettlesOnceIfAccepted env book message)
    {k : ℕ} {bond : Bond} (hbond : book.bonds[k]? = some bond) (hsafe : bond.Safe env book.state) :
    ∃ bond', (book.next env message).bonds[k]? = some bond' ∧ bond'.id = bond.id ∧
      bond'.Safe env (book.next env message).state := by
  have hmem : bond ∈ book.bonds := List.mem_of_getElem? hbond
  have hlive := h.live bond hmem
  obtain ⟨other, hother, _, haddress⟩ := h.stored bond hmem
  unfold BondBook.next
  cases hs : step env book.state message.input with
  | error e => exact ⟨bond, hbond, rfl, hsafe⟩
  | ok s' =>
      have hsettles := hcond (accepts_iff.mpr ⟨s', hs⟩)
      cases message with
      | opening ctx msg =>
          obtain ⟨challenge, bank, hsupplied, _, _, rfl⟩ := openChallenge_ok hs
          have hfresh : book.state.challenges[(challenge.opened ctx).challengeIdHex]? = none :=
            hsettles challenge hsupplied
          have hkept : (book.recordOpening (challenge.opened ctx)).bonds[k]? = some bond := by
            obtain ⟨hk, _⟩ := List.getElem?_eq_some_iff.mp hbond
            rw [h.bonds_opening hfresh, List.getElem?_append_left hk]
            exact hbond
          simp only [BondBook.record, hsupplied]
          refine ⟨bond, hkept, rfl, ?_⟩
          rcases hsafe with hdone | hopen
          · exact .inl hdone
          · have hne : (challenge.opened ctx).challengeIdHex ≠ bond.id := by
              intro hid
              rw [hid, hother] at hfresh
              cases hfresh
            have hstored : ({ book.state with bank }.setChallenge
                (challenge.opened ctx)).challenges[bond.id]? = some other :=
              (get_insert_ne _ _ hne).trans hother
            have hresolvable := (resolvable_of_settleable hopen hother).opening bank
              (challenge.opened ctx)
            exact .inr (settleable_of_resolvable hlive hstored haddress hresolvable)
      | resolution ctx msg =>
          obtain ⟨stored, settled, slashed, commit, hfound, _, _, _, _, _, hpays, hslashes,
            hcommitted, rfl⟩ := resolveChallenge_ok hs
          have hbonds : (book.recordResolution env msg).bonds =
              book.bonds.map (·.settle msg.challengeIdHex) := by
            unfold BondBook.recordResolution
            rw [hfound]
          have hkept : (book.recordResolution env msg).bonds[k]? =
              some (bond.settle msg.challengeIdHex) := by
            rw [hbonds, List.getElem?_map, hbond]
            rfl
          refine ⟨bond.settle msg.challengeIdHex, hkept, bond.settle_id _, ?_⟩
          by_cases hid : bond.id = msg.challengeIdHex
          · rw [Bond.settle_of_eq hlive hid]
            exact .inl (Nat.succ_pos _)
          rw [Bond.settle_of_ne hid]
          rcases Nat.eq_zero_or_pos bond.settlements with hzero | hdone
          · have hopen : Settleable env book.state bond := by
              rcases hsafe with hdone | hopen
              · omega
              · exact hopen
            have hquiet : ResolvesQuietly env book.state msg stored ∨
                (other.epochId = stored.epochId → ¬ CitesRoot other) := by
              rcases hsettles.2 stored hfound with hquiet | hrest
              · exact .inl hquiet
              · exact .inr (hrest bond hmem hzero hid other hother)
            have hresolvable := Resolvable.resolution h.wellFormed hquiet hpays hslashes hcommitted
              (resolvable_of_settleable hopen hother)
            refine .inr (settleable_of_resolvable hlive ?_ haddress hresolvable)
            obtain ⟨bank, records, hframe⟩ := resolution_frame hpays hslashes
            have hstoredId : stored.challengeIdHex = msg.challengeIdHex :=
              h.wellFormed.challenges _ _ hfound
            have hne : (stored.resolvedBy msg).challengeIdHex ≠ bond.id :=
              fun heq => hid (heq.symm.trans hstoredId)
            rw [hframe]
            exact (get_insert_ne _ _ hne).trans hother
          · exact .inl hdone

end BondBook

namespace Sample

/-- Alice and Bob are nodes, and Alice has proposed epoch seven. -/
def proposed : List Input := [register alice, register bob, propose (emptyCommit 7)]

def proposedBook : BondBook := { state := run (next Sample.env) genesis proposed }

def openBond (challenger id : String) (bondAmount : UInt64) : BondMessage :=
  .opening (ctx 4) (challengeMsg challenger id bondAmount)

def settleBond (id : String) (finalState : ChallengeState) : BondMessage :=
  .resolution (ctx 5) (resolveMsg id finalState)

end Sample

end PoleProtocol.Chain
