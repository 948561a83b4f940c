import PoleProtocol.Node.CosmosClient
import PoleProtocol.Node.SignedTransactions

/-!
# What a submission leaves on the chain

A submission sends the same bytes again when an answer is lost, and signs again when the sequence
is stale. The chain executes the message once for a submission that succeeds and once for every
answer that is lost, so that at most one execution is left when no answer is.
-/

namespace PoleProtocol.Node

open Framework Ledger

section Accounts

variable {W : Type} {packages : TxPackages} {gateway : Gateway W} {journal : Journal W Bytes}
  {P : Bytes → Prop}

/-! ## Honest gateways -/

/-- One for a reply that the client can read and that reports a success. -/
def Reply.successes {α : Type} (succeeded : α → Bool) (reply : Reply α) : ℕ :=
  match reply.answer with
  | .ok a => if succeeded a then 1 else 0
  | .error _ => 0

/-- A node takes a transaction when it reports a success, and leaves it when it reports a failure;
when the client gets no answer, it can have done either. Lookups and waiting take nothing. -/
structure Gateway.Honest (gateway : Gateway W) (packages : TxPackages)
    (journal : Journal W Bytes) : Prop where
  account : ∀ address, journal.Delivers (fun _ => False) 0 (fun _ => 0) (gateway.getAccount address)
  sleep : ∀ duration world, journal.Grows (fun _ => False) 0 world (gateway.sleep duration world)
  sync : ∀ tx, journal.Delivers (fun bytes => packages.base64Decode tx = .ok bytes) 0
    (Reply.successes fun resp => resp.code = 0) (gateway.postSync tx)
  commit : ∀ tx, journal.Delivers (fun bytes => packages.base64Decode tx = .ok bytes) 0
    (Reply.successes fun result => result.checkTx.code = 0 ∧ result.txResult.code = 0)
    (gateway.postCommit tx)

/-- One for a success. -/
def successes (resp : BroadcastTxResponse) : ℕ := if resp.code = 0 then 1 else 0

theorem successes_of_isOk {resp : BroadcastTxResponse} (h : ¬ resp.isOk) : successes resp = 0 := by
  rw [successes, if_neg (by simpa [BroadcastTxResponse.isOk] using h)]

theorem delivers_answer {α : Type} {reply : Reply α} {succeeded : α → Bool} {count : α → ℕ}
    (hcount : ∀ a, count a = if succeeded a then 1 else 0) :
    journal.Delivers P (reply.successes succeeded) count
      (liftM (reply.answer.mapError Failure.refused : Attempt CosmosError α) :
        Action W CosmosError α) := by
  refine Journal.delivers_lift ?_ ?_
  · intro a ha
    rw [Reply.successes, mapError_eq_ok.mp ha]
    exact hcount a
  · intro e he
    cases hanswer : reply.answer with
    | ok a =>
        rw [hanswer] at he
        cases he
    | error e' => simp [Reply.successes, hanswer]

section Broadcast

variable {txBytes : Bytes} {opts : BroadcastOptions}

/-- What reads as the bytes is the bytes. -/
theorem decoded_eq (hbase64 : packages.base64Decode (packages.base64Encode txBytes) = .ok txBytes)
    {bytes : Bytes} (h : packages.base64Decode (packages.base64Encode txBytes) = .ok bytes) :
    bytes = txBytes := by
  rw [hbase64] at h
  exact (Except.ok.inj h).symm

theorem delivers_syncOnce (honest : gateway.Honest packages journal)
    (hbase64 : packages.base64Decode (packages.base64Encode txBytes) = .ok txBytes) :
    journal.Delivers (· = txBytes) 0 successes (broadcastTxSyncOnce packages gateway txBytes) := by
  refine Journal.Delivers.bind ((honest.sync _).mono fun _ => decoded_eq hbase64) fun reply => ?_
  exact delivers_answer fun resp => by simp [successes]

theorem delivers_commitOnce (honest : gateway.Honest packages journal)
    (hbase64 : packages.base64Decode (packages.base64Encode txBytes) = .ok txBytes) :
    journal.Delivers (· = txBytes) 0 successes
      (broadcastTxCommitOnce packages gateway txBytes) := by
  refine Journal.Delivers.bind ((honest.commit _).mono fun _ => decoded_eq hbase64) fun reply => ?_
  refine Journal.Delivers.bind (delivers_answer fun _ => rfl) fun commit => ?_
  refine Journal.delivers_pure ?_
  by_cases hcheck : commit.checkTx.code = 0
  · simp [successes, BroadcastTxCommitResult.response, hcheck]
  · simp [successes, BroadcastTxCommitResult.response, hcheck]

theorem delivers_pause (honest : gateway.Honest packages journal) (left : ℕ) :
    journal.Delivers P 0 (fun _ => 0) (pauseBefore gateway left opts) := by
  unfold pauseBefore
  split
  · intro w₀ w hstart
    have hslept := (honest.sleep opts.retryDelay w).mono (Q := P) fun _ h => h.elim
    exact hstart.trans hslept
  · exact Journal.delivers_pure rfl

theorem delivers_retry (honest : gateway.Honest packages journal)
    {once : Action W CosmosError BroadcastTxResponse}
    (honce : journal.Delivers P 0 successes once) (left : ℕ) (last : String) :
    journal.Delivers P 0 successes (retryBroadcast gateway once opts left last) := by
  induction left generalizing last with
  | zero =>
      intro w₀ w hstart
      exact hstart
  | succ left ih =>
      refine Journal.Delivers.bind honce.caught fun outcome => ?_
      cases outcome with
      | ok resp =>
          by_cases hdone : resp.isOk ∨ ¬ isRetriableCode resp.code
          · simp only [if_pos hdone]
            exact Journal.delivers_pure rfl
          · simp only [if_neg hdone]
            rw [successes_of_isOk fun hok => hdone (Or.inl hok)]
            exact Journal.Delivers.bind (delivers_pause honest left) fun _ => ih _
      | error e => exact Journal.Delivers.bind (delivers_pause honest left) fun _ => ih _

theorem lift_ok_bind {α β : Type} (a : α) (f : α → Action W CosmosError β) :
    (liftM (.ok a : Attempt CosmosError α) >>= f) = f a := rfl

/-- What the client decodes again is what it encoded. -/
theorem broadcast_eq (hdocumented : packages.Documented)
    (hbase64 : ∀ bytes, packages.base64Decode (packages.base64Encode bytes) = .ok bytes)
    (signed : SignedTx) :
    broadcast packages gateway signed opts =
      if opts.commit then
        broadcastTxCommit packages gateway (txRawFormat.encode signed.raw) opts
      else broadcastTxSync packages gateway (txRawFormat.encode signed.raw) opts := by
  have htext : (signed.toBase64 packages).mapError Failure.refused =
      .ok (packages.base64Encode (txRawFormat.encode signed.raw)) := by
    rw [SignedTx.toBase64, hdocumented.txRaw]
    rfl
  rw [broadcast, htext, lift_ok_bind, hbase64]
  rfl

theorem delivers_broadcast (honest : gateway.Honest packages journal)
    (hdocumented : packages.Documented)
    (hbase64 : ∀ bytes, packages.base64Decode (packages.base64Encode bytes) = .ok bytes)
    (signed : SignedTx) :
    journal.Delivers (· = txRawFormat.encode signed.raw) 0 successes
      (broadcast packages gateway signed opts) := by
  rw [broadcast_eq hdocumented hbase64]
  split
  · exact delivers_retry honest (delivers_commitOnce honest (hbase64 _)) _ _
  · exact delivers_retry honest (delivers_syncOnce honest (hbase64 _)) _ _

end Broadcast

/-! ## Waiting -/

theorem delivers_lookup (honest : gateway.Honest packages journal) (address : String) :
    journal.Delivers P 0 (fun _ => 0) (gateway.getAccount address) :=
  (honest.account address).mono fun _ h => h.elim

theorem delivers_poll (honest : gateway.Honest packages journal) {address : String}
    {staleSequence : UInt64} {deadline poll : ℕ} (polls : ℕ) :
    journal.Delivers P 0 (fun _ => 0)
      (pollSequence gateway address staleSequence deadline poll polls) := by
  induction polls with
  | zero => exact Journal.delivers_pure rfl
  | succ polls ih =>
      intro w₀ w hstart
      refine (?_ : journal.Delivers P 0 (fun _ => 0) (if deadline ≤ gateway.now w then _ else _))
        w₀ w hstart
      split
      · exact Journal.delivers_pure rfl
      · refine Journal.Delivers.bind (delivers_lookup honest address).caught_quiet fun looked => ?_
        split
        · exact Journal.delivers_pure rfl
        · have hslept : journal.Delivers P 0 (fun _ => 0)
              (modify (gateway.sleep poll) : Action W CosmosError PUnit) := by
            intro v₀ v hpolled
            exact hpolled.trans ((honest.sleep poll v).mono fun _ h => h.elim)
          exact hslept.bind fun _ => ih

theorem delivers_wait (honest : gateway.Honest packages journal) {address : String}
    {staleSequence : UInt64} {timeout polls : ℕ} :
    journal.Delivers P 0 (fun _ => 0)
      (waitForSequenceAbove gateway polls address staleSequence timeout) := by
  intro w₀ w hstart
  exact delivers_poll honest polls w₀ w hstart

theorem delivers_waitBefore (honest : gateway.Honest packages journal) {address : String}
    {staleSequence : UInt64} {timeout left polls : ℕ} :
    journal.Delivers P 0 (fun _ => 0)
      (waitBefore gateway left polls address staleSequence timeout) := by
  unfold waitBefore
  split
  · exact delivers_wait honest
  · exact Journal.delivers_pure rfl

/-! ## Submitting -/

section Submit

variable {chainId : String} {polls : ℕ} {msg : BridgeMessage} {signer : CosmosAddress}
  {keypair : KeyPair} {opts : BroadcastOptions} {policy : Overflow}

/-- The bytes of a transaction that the builder made of the message. -/
def BuiltFrom (packages : TxPackages) (chainId : String) (msg : BridgeMessage)
    (signer : CosmosAddress) (keypair : KeyPair) (policy : Overflow) (bytes : Bytes) : Prop :=
  ∃ accountNumber sequence signed,
    ((TxBuilder.new chainId).withSequence accountNumber sequence).build packages policy msg signer
      keypair = .ok signed ∧ bytes = txRawFormat.encode signed.raw

theorem builtFrom_of_signFor {info : AccountInfo} {built : UInt64 × SignedTx}
    (h : signFor packages chainId msg signer keypair policy info = .ok built) :
    BuiltFrom packages chainId msg signer keypair policy (txRawFormat.encode built.2.raw) := by
  simp only [signFor, bind_eq_ok, mapError_eq_ok, pure_eq_ok] at h
  obtain ⟨accountNumber, _, sequence, _, signed, hbuild, rfl⟩ := h
  exact ⟨accountNumber, sequence, signed, hbuild, rfl⟩

theorem delivers_submitFrom (honest : gateway.Honest packages journal)
    (hdocumented : packages.Documented)
    (hbase64 : ∀ bytes, packages.base64Decode (packages.base64Encode bytes) = .ok bytes)
    (left : ℕ) (last : Option BroadcastTxResponse)
    (hlast : ∀ resp, last = some resp → successes resp = 0) :
    journal.Delivers (BuiltFrom packages chainId msg signer keypair policy) 0 successes
      (submitFrom packages gateway chainId polls msg signer keypair opts policy left last) := by
  induction left generalizing last with
  | zero =>
      refine Journal.delivers_lift (fun resp hresp => ?_) fun _ _ => rfl
      exact hlast resp (require_eq_ok.mp hresp)
  | succ left ih =>
      refine Journal.Delivers.bind (delivers_lookup honest _) fun info => ?_
      cases hbuilt : signFor packages chainId msg signer keypair policy info with
      | error e =>
          intro w₀ w hstart
          exact hstart
      | ok built =>
          have hsent : journal.Delivers (BuiltFrom packages chainId msg signer keypair policy) 0
              successes (broadcast packages gateway built.2 opts) := by
            refine (delivers_broadcast honest hdocumented hbase64 built.2).mono fun bytes hbytes => ?_
            rw [hbytes]
            exact builtFrom_of_signFor hbuilt
          refine hsent.bind fun resp => ?_
          split
          · exact Journal.delivers_pure rfl
          · next hagain =>
              have hfailed : successes resp = 0 :=
                successes_of_isOk fun hok => hagain (Or.inl hok)
              rw [hfailed]
              refine (delivers_waitBefore honest).bind fun _ => ih _ fun resp' hresp' => ?_
              cases hresp'
              exact hfailed

/-! ## No panic -/

/-- The gateway returns or refuses. -/
structure Gateway.Calm (gateway : Gateway W) : Prop where
  account : ∀ address, (gateway.getAccount address).Calm
  sync : ∀ tx, (gateway.postSync tx).Calm
  commit : ∀ tx, (gateway.postCommit tx).Calm

theorem mapError_refused_ne_panic {ε α : Type} (x : Except ε α) :
    (x.mapError Failure.refused : Attempt ε α) ≠ .error .panic := by
  cases x <;> simp [Except.mapError]

theorem bind_ne_panic {ε α β : Type} {z : Attempt ε α} {f : α → Attempt ε β}
    (hz : z ≠ .error .panic) (hf : ∀ a, f a ≠ .error .panic) : (z >>= f) ≠ .error .panic := by
  intro h
  rcases bind_eq_error.mp h with hfirst | ⟨a, _, hnext⟩
  · exact hz hfirst
  · exact hf a hnext

/-- The default fee is far inside its width. -/
theorem estimatedFee_default (policy : Overflow) :
    FeeConfig.default.estimatedFee policy = some 200000000 := policy.mul_of_lt (by decide)

theorem build_ne_panic {builder : TxBuilder} (hfee : builder.fee = .default) :
    builder.build packages policy msg signer keypair ≠ .error .panic := by
  have hauthInfo : builder.buildAuthInfo policy keypair.publicKey =
      some (builder.authInfo keypair.publicKey 200000000) :=
    buildAuthInfo_eq_some.mpr ⟨_, by rw [hfee, estimatedFee_default], rfl⟩
  unfold TxBuilder.build
  refine bind_ne_panic (mapError_refused_ne_panic _) fun expected => ?_
  refine bind_ne_panic ?_ fun _ => ?_
  · intro h
    cases (ensure_eq_error.mp h).2
  rw [hauthInfo]
  refine bind_ne_panic (fun h => by cases h) fun authInfo => ?_
  refine bind_ne_panic ?_ fun bodyBytes => bind_ne_panic ?_ fun authInfoBytes =>
    mapError_refused_ne_panic _
  · cases packages.encodeTxBody (builder.buildBody msg) <;> simp [Except.mapError]
  · cases packages.encodeAuthInfo authInfo <;> simp [Except.mapError]

theorem signFor_ne_panic {info : AccountInfo} :
    signFor packages chainId msg signer keypair policy info ≠ .error .panic := by
  refine bind_ne_panic (mapError_refused_ne_panic _) fun accountNumber =>
    bind_ne_panic (mapError_refused_ne_panic _) fun sequence =>
      bind_ne_panic (build_ne_panic rfl) fun signed => ?_
  intro h
  cases h

theorem calm_retry {once : Action W CosmosError BroadcastTxResponse} (honce : once.Calm)
    (left : ℕ) (last : String) : (retryBroadcast gateway once opts left last).Calm := by
  have hpause : ∀ k, (pauseBefore gateway k opts).Calm := by
    intro k
    unfold pauseBefore
    split
    · exact Action.calm_modify _
    · exact Action.calm_pure _
  induction left generalizing last with
  | zero =>
      intro s s' h
      cases h
  | succ left ih =>
      refine honce.caught.bind fun outcome => ?_
      cases outcome with
      | ok resp =>
          dsimp only
          split
          · exact Action.calm_pure _
          · exact (hpause left).bind fun _ => ih _
      | error e => exact (hpause left).bind fun _ => ih _

theorem calm_broadcast (hcalm : gateway.Calm) (signed : SignedTx) :
    (broadcast packages gateway signed opts).Calm := by
  refine (Action.calm_lift (mapError_refused_ne_panic _)).bind fun b64 => ?_
  refine (Action.calm_lift ?_).bind fun bytes => ?_
  · cases packages.base64Decode b64 <;> simp [Except.mapError]
  · split
    · refine calm_retry ((hcalm.commit _).bind fun reply => ?_) _ _
      exact (Action.calm_lift (mapError_refused_ne_panic _)).bind fun _ => Action.calm_pure _
    · refine calm_retry ((hcalm.sync _).bind fun reply => ?_) _ _
      exact Action.calm_lift (mapError_refused_ne_panic _)

theorem calm_wait (hcalm : gateway.Calm) {address : String} {staleSequence : UInt64}
    {timeout : ℕ} : (waitForSequenceAbove gateway polls address staleSequence timeout).Calm := by
  have hpoll : ∀ deadline poll k,
      (pollSequence gateway address staleSequence deadline poll k).Calm := by
    intro deadline poll k
    induction k with
    | zero => exact Action.calm_pure _
    | succ k ih =>
        intro s
        refine (?_ : Action.Calm (if deadline ≤ gateway.now s then _ else _)) s
        split
        · exact Action.calm_pure _
        · refine (hcalm.account address).caught.bind fun looked => ?_
          split
          · exact Action.calm_pure _
          · exact (Action.calm_modify _).bind fun _ => ih
  intro s
  exact hpoll _ _ polls s

/-- There is a last response whenever the attempts are used up. -/
theorem calm_submitFrom (hcalm : gateway.Calm) (left : ℕ) (last : Option BroadcastTxResponse)
    (hlast : left ≠ 0 ∨ last ≠ none) :
    (submitFrom packages gateway chainId polls msg signer keypair opts policy left last).Calm := by
  induction left generalizing last with
  | zero =>
      refine Action.calm_lift fun h => ?_
      rcases hlast with hzero | hsome
      · exact hzero rfl
      · exact hsome (require_eq_error.mp h).1
  | succ left ih =>
      refine (hcalm.account _).bind fun info => (Action.calm_lift signFor_ne_panic).bind fun built =>
        (calm_broadcast hcalm _).bind fun resp => ?_
      split
      · exact Action.calm_pure _
      · have hwait : (waitBefore gateway left polls signer.bech32 built.1
            opts.requestTimeout).Calm := by
          unfold waitBefore
          split
          · exact calm_wait hcalm
          · exact Action.calm_pure _
        exact hwait.bind fun _ => ih _ (Or.inr (Option.some_ne_none _))

/-! ## Waiting ends -/

/-- Time passes while the client sleeps, and never goes back. -/
structure Gateway.Ticks (gateway : Gateway W) : Prop where
  sleep : ∀ duration world, gateway.now world + duration ≤ gateway.now (gateway.sleep duration world)
  account : ∀ address world,
    gateway.now world ≤ gateway.now ((gateway.getAccount address).caught.finish world)

theorem poll_run (gateway : Gateway W) (address : String) (staleSequence : UInt64)
    (deadline poll polls : ℕ) (world : W) :
    (pollSequence gateway address staleSequence deadline poll (polls + 1)).run world =
      if deadline ≤ gateway.now world then .ok () world
      else ((gateway.getAccount address).caught >>= fun looked =>
        if sequenceMoved staleSequence looked then pure ()
        else modify (gateway.sleep poll) >>= fun _ =>
          pollSequence gateway address staleSequence deadline poll polls).run world := by
  by_cases hdeadline : deadline ≤ gateway.now world
  · rw [if_pos hdeadline]
    change (if deadline ≤ gateway.now world then _ else _ : Action W CosmosError Unit).run world = _
    rw [if_pos hdeadline]
    rfl
  · rw [if_neg hdeadline]
    change (if deadline ≤ gateway.now world then _ else _ : Action W CosmosError Unit).run world = _
    rw [if_neg hdeadline]

/-- Polls that reach the deadline are enough. -/
theorem poll_enough (hticks : gateway.Ticks) {address : String} {staleSequence : UInt64}
    {deadline poll : ℕ} (enough more : ℕ) (hmore : enough ≤ more) (world : W)
    (hdeadline : deadline ≤ gateway.now world + enough * poll) :
    (pollSequence gateway address staleSequence deadline poll more).run world =
      (pollSequence gateway address staleSequence deadline poll enough).run world := by
  induction enough generalizing more world with
  | zero =>
      cases more with
      | zero => rfl
      | succ more =>
          rw [poll_run, if_pos (by omega)]
          rfl
  | succ enough ih =>
      obtain ⟨more, rfl⟩ : ∃ k, more = k + 1 := ⟨more - 1, by omega⟩
      rw [poll_run, poll_run]
      by_cases hreached : deadline ≤ gateway.now world
      · rw [if_pos hreached, if_pos hreached]
      · rw [if_neg hreached, if_neg hreached, EStateM.run_bind, EStateM.run_bind]
        cases hlooked : (gateway.getAccount address).caught.run world with
        | error e after => rfl
        | ok looked after =>
            dsimp only
            by_cases hmoved : sequenceMoved staleSequence looked
            · rw [if_pos hmoved, if_pos hmoved]
            · rw [if_neg hmoved, if_neg hmoved, Action.modify_bind, Action.modify_bind]
              have hlater := hticks.account address world
              rw [Action.finish_of_ok hlooked] at hlater
              have hslept := hticks.sleep poll after
              refine ih more (by omega) _ ?_
              rw [Nat.succ_mul] at hdeadline
              omega

theorem wait_enough (hticks : gateway.Ticks) {address : String} {staleSequence : UInt64}
    {timeout more : ℕ} (hpolls : timeout ≤ polls) (hmore : polls ≤ more) :
    waitForSequenceAbove gateway more address staleSequence timeout =
      waitForSequenceAbove gateway polls address staleSequence timeout := by
  funext world
  refine poll_enough hticks polls more hmore world ?_
  -- A poll takes a millisecond at least, unless there is no time to wait.
  have hreach : timeout ≤ polls * min 250 timeout := by
    rcases Nat.eq_zero_or_pos timeout with hzero | hpos
    · omega
    · exact le_trans hpolls (Nat.le_mul_of_pos_right _ (by omega))
  omega

theorem submitFrom_enough (hticks : gateway.Ticks) {more : ℕ}
    (hpolls : opts.requestTimeout ≤ polls) (hmore : polls ≤ more) (left : ℕ)
    (last : Option BroadcastTxResponse) :
    submitFrom packages gateway chainId more msg signer keypair opts policy left last =
      submitFrom packages gateway chainId polls msg signer keypair opts policy left last := by
  induction left generalizing last with
  | zero => rfl
  | succ left ih => simp only [submitFrom, waitBefore, wait_enough hticks hpolls hmore, ih]

/-! ## The submission -/

/-- One for a submission that returns a success. -/
def resultSuccesses : EStateM.Result (Failure CosmosError) W BroadcastTxResponse → ℕ
  | .ok resp _ => successes resp
  | .error _ _ => 0

end Submit

end Accounts

/-! ## A lost answer -/

namespace Sample

/-- The posts so far, what the node took, the answers that were lost, and the time. -/
structure World where
  posts : ℕ
  taken : List Bytes
  missed : ℕ
  clock : ℕ

def journal : Journal World Bytes := ⟨World.taken, World.missed⟩

def answered (code : UInt32) : Reply BroadcastTxResponse where
  status := 200
  raw := ""
  error := none
  result := .ok { txHash := "", code, data := "", log := "", codespace := "" }

/-- The answer to the first post is lost; when the client sends the same bytes again, the sequence
has moved on. -/
def post (world : World) :
    Option Bytes → EStateM.Result (Failure CosmosError) World (Reply BroadcastTxResponse)
  | none => .ok (answered 2) world
  | some bytes =>
      match world.posts with
      | 0 => .error (.refused (.http "timed out"))
          { world with posts := 1, taken := world.taken ++ [bytes], missed := world.missed + 1 }
      | 1 => .ok (answered 32) { world with posts := 2 }
      | posts => .ok (answered 0) { world with posts, taken := world.taken ++ [bytes] }

def forgetful : Gateway World where
  getAccount _ := fun world =>
    .ok { accountNumber := "4", sequence := if world.posts = 0 then "2" else "3" } world
  postSync tx := fun world => post world (base64Decode tx)
  postCommit _ := fun world => .error (.refused (.http "not found")) world
  sleep duration world := { world with clock := world.clock + duration }
  now world := world.clock

theorem forgetful_calm : forgetful.Calm where
  account _ s s' h := by cases h
  commit _ s s' h := by cases h
  sync tx s s' h := by
    change post s (base64Decode tx) = _ at h
    unfold post at h
    split at h
    · cases h
    · split at h <;> cases h

theorem forgetful_ticks : forgetful.Ticks := ⟨fun _ _ => le_rfl, fun _ _ => le_rfl⟩

theorem forgetful_honest : forgetful.Honest packages journal where
  account _ _ _ h := h
  sleep _ _ := Journal.Grows.of_eq rfl rfl
  commit _ _ _ h := h
  sync tx s₀ s h := by
    have hrun : (forgetful.postSync tx).run s = post s (base64Decode tx) := rfl
    rw [hrun]
    cases hdecoded : base64Decode tx with
    | none => exact h
    | some bytes =>
        have hbytes : ∀ item ∈ [bytes], packages.base64Decode tx = .ok item := by
          intro item hitem
          rw [List.mem_singleton.mp hitem]
          exact require_eq_ok.mpr hdecoded
        have htook : ∀ lost count s', s'.taken = s.taken ++ [bytes] →
            s'.missed = s.missed + lost → 1 = lost + count →
            journal.Grows (fun item => packages.base64Decode tx = .ok item) count s₀ s' := by
          intro lost count s' htaken hmissed hcount
          have hstep : journal.Grows (fun item => packages.base64Decode tx = .ok item) count s s' :=
            ⟨[bytes], lost, htaken, hmissed, hcount, hbytes⟩
          simpa using h.trans hstep
        unfold post
        dsimp only
        split
        · next hrun =>
            split at hrun
            · cases hrun
            · cases hrun
              exact h.trans (Journal.Grows.of_eq rfl rfl)
            · cases hrun
              exact htook 0 1 _ rfl rfl rfl
        · next hrun =>
            split at hrun
            · cases hrun
              exact htook 1 0 _ rfl rfl rfl
            · cases hrun
            · cases hrun

/-- Every sequence is as good as another for this key. -/
theorem build_at (accountNumber sequence : UInt64) : ∃ signed,
    ((TxBuilder.new "pole-test").withSequence accountNumber sequence).build packages .panic
      registration ⟨[], "pole1n"⟩ txKey = .ok signed := by
  obtain ⟨hderived, _⟩ := (TxBuilder.build_eq_ok packages_documented).mp build_registration
  exact ⟨_, (TxBuilder.build_eq_ok packages_documented).mpr
    ⟨hderived, 200000000, estimatedFee_default _, _, rfl, rfl, rfl⟩⟩

theorem packages_base64 (bytes : Bytes) :
    packages.base64Decode (packages.base64Encode bytes) = .ok bytes :=
  require_eq_ok.mpr (base64Decode_base64Encode bytes)

theorem once_run (world : World) (txBytes : Bytes) :
    (broadcastTxSyncOnce packages forgetful txBytes).run world =
      match post world (some txBytes) with
      | .ok reply after => (liftM (reply.answer.mapError Failure.refused :
          Attempt CosmosError BroadcastTxResponse) : Action World CosmosError _).run after
      | .error e after => .error e after := by
  have hpost : (forgetful.postSync (packages.base64Encode txBytes)).run world =
      post world (some txBytes) := by
    change post world (base64Decode (base64Encode txBytes)) = _
    rw [base64Decode_base64Encode]
  rw [broadcastTxSyncOnce, EStateM.run_bind, hpost]
  cases post world (some txBytes) <;> rfl

/-- The answers of the node as the client reads them. -/
def response (code : UInt32) : BroadcastTxResponse :=
  { txHash := "", code, data := "", log := "", codespace := "" }

/-- The first broadcast: the answer is lost, and the second one reports the sequence. -/
theorem first_broadcast (signed : SignedTx) :
    (broadcast packages forgetful signed .default).run ⟨0, [], 0, 0⟩ =
      .ok (response 32) ⟨2, [txRawFormat.encode signed.raw], 1, 2000⟩ := by
  let once := broadcastTxSyncOnce packages forgetful (txRawFormat.encode signed.raw)
  have hlost : once.caught.run ⟨0, [], 0, 0⟩ = .ok (.error (.http "timed out"))
      ⟨1, [txRawFormat.encode signed.raw], 1, 0⟩ := by
    rw [Action.caught_run, once_run]
    rfl
  have hrace : once.caught.run ⟨1, [txRawFormat.encode signed.raw], 1, 2000⟩ =
      .ok (.ok (response 32)) ⟨2, [txRawFormat.encode signed.raw], 1, 2000⟩ := by
    rw [Action.caught_run, once_run]
    rfl
  rw [broadcast_eq packages_documented packages_base64, if_neg (by decide)]
  change (retryBroadcast forgetful once .default (2 + 1) "").run _ = _
  rw [retryBroadcast, EStateM.run_bind, hlost]
  change (retryBroadcast forgetful once .default (1 + 1) (lastError (.error (.http "timed out")))).run
    ⟨1, [txRawFormat.encode signed.raw], 1, 2000⟩ = _
  rw [retryBroadcast, EStateM.run_bind, hrace]
  rfl

/-- The second broadcast is taken. -/
theorem second_broadcast (signed : SignedTx) (bytes : Bytes) :
    (broadcast packages forgetful signed .default).run ⟨2, [bytes], 1, 2000⟩ =
      .ok (response 0) ⟨2, [bytes, txRawFormat.encode signed.raw], 1, 2000⟩ := by
  let once := broadcastTxSyncOnce packages forgetful (txRawFormat.encode signed.raw)
  have htaken : once.caught.run ⟨2, [bytes], 1, 2000⟩ =
      .ok (.ok (response 0)) ⟨2, [bytes, txRawFormat.encode signed.raw], 1, 2000⟩ := by
    rw [Action.caught_run, once_run]
    rfl
  rw [broadcast_eq packages_documented packages_base64, if_neg (by decide)]
  change (retryBroadcast forgetful once .default (2 + 1) "").run _ = _
  rw [retryBroadcast, EStateM.run_bind, htaken]
  rfl

theorem signFor_at {info : AccountInfo} {accountNumber sequence : UInt64}
    (hnumber : parseWord info.accountNumber = .ok accountNumber)
    (hsequence : parseWord info.sequence = .ok sequence) : ∃ signed,
    signFor packages "pole-test" registration ⟨[], "pole1n"⟩ txKey .panic info =
      .ok (sequence, signed) := by
  obtain ⟨signed, hsigned⟩ := build_at accountNumber sequence
  refine ⟨signed, ?_⟩
  simp only [signFor, hnumber, hsequence, Except.mapError, ok_bind, hsigned]
  rfl

/-- The client finds that the sequence has moved. -/
theorem wait_run (polls : ℕ) (taken : List Bytes) :
    (waitBefore forgetful 2 (polls + 1) "pole1n" 2 15000).run ⟨2, taken, 1, 2000⟩ =
      .ok () ⟨2, taken, 1, 2000⟩ := by
  have hnow : forgetful.now ⟨2, taken, 1, 2000⟩ = 2000 := rfl
  have hlooked : (forgetful.getAccount "pole1n").caught.run ⟨2, taken, 1, 2000⟩ =
      .ok (.ok ⟨"4", "3"⟩) ⟨2, taken, 1, 2000⟩ := rfl
  have hmoved : sequenceMoved 2 (.ok ⟨"4", "3"⟩) = true := by decide +kernel
  rw [waitBefore, if_pos (by decide), waitForSequenceAbove, Action.get_bind, poll_run, hnow,
    if_neg (by omega), EStateM.run_bind, hlooked]
  dsimp only
  rw [if_pos hmoved]
  rfl

/-- The submission of the registration, with a poll for every millisecond. -/
def submission : Action World CosmosError BroadcastTxResponse :=
  submit packages forgetful "pole-test" 15000 registration ⟨[], "pole1n"⟩ txKey .default .panic

theorem submission_run : ∃ first second,
    submission.run ⟨0, [], 0, 0⟩ = .ok (response 0) ⟨2, [first, second], 1, 2000⟩ := by
  obtain ⟨first, hfirst⟩ := @signFor_at ⟨"4", "2"⟩ 4 2 (by decide +kernel) (by decide +kernel)
  obtain ⟨second, hsecond⟩ := @signFor_at ⟨"4", "3"⟩ 4 3 (by decide +kernel) (by decide +kernel)
  refine ⟨txRawFormat.encode first.raw, txRawFormat.encode second.raw, ?_⟩
  change (submitFrom packages forgetful "pole-test" 15000 registration ⟨[], "pole1n"⟩ txKey .default
    .panic (2 + 1) none).run _ = _
  rw [submitFrom, EStateM.run_bind]
  change ((liftM (signFor packages "pole-test" registration ⟨[], "pole1n"⟩ txKey .panic
    ⟨"4", "2"⟩) : Action World CosmosError _) >>= _).run ⟨0, [], 0, 0⟩ = _
  rw [hfirst, lift_ok_bind, EStateM.run_bind, first_broadcast]
  dsimp only
  have hwait : (waitBefore forgetful 2 15000 "pole1n" 2 BroadcastOptions.default.requestTimeout).run
      ⟨2, [txRawFormat.encode first.raw], 1, 2000⟩ =
      .ok () ⟨2, [txRawFormat.encode first.raw], 1, 2000⟩ := wait_run 14999 _
  rw [if_neg (by decide), EStateM.run_bind, hwait]
  dsimp only
  rw [submitFrom, EStateM.run_bind]
  change ((liftM (signFor packages "pole-test" registration ⟨[], "pole1n"⟩ txKey .panic
    ⟨"4", "3"⟩) : Action World CosmosError _) >>= _).run
      ⟨2, [txRawFormat.encode first.raw], 1, 2000⟩ = _
  rw [hsecond, lift_ok_bind, EStateM.run_bind, second_broadcast]
  rfl

end Sample

end PoleProtocol.Node
