import WeatherNotify.Accounts.OneTimeTokens

/-!
# When a one-time token is consumed once

A consumption writes by user id and does not ask whether its token is still
the current one.  As long as no other operation writes the columns between a
consumption's lookup and its update, every token is consumed at most once and
never after it was cleared or replaced.
-/

namespace WeatherNotify.OneTime

open WeatherNotify.Transition

variable {n : Nat}

/-! ## Fingerprints in the table -/

theorem holds_iff {accounts : List Account} {flow : Flow}
    {tokenHash : String} :
    holds accounts flow tokenHash = true ↔
      ∃ account ∈ accounts,
        (account.slot flow).tokenHash = some tokenHash := by
  simp only [holds, List.any_eq_true, beq_iff_eq]

theorem findByToken_spec {hashToken : String → String}
    {accounts : List Account} {flow : Flow} {token : String}
    {account : Account}
    (stored : findByToken hashToken accounts flow token = some account) :
    account ∈ accounts ∧
      (account.slot flow).tokenHash = some (hashToken token) := by
  have matched := List.find?_some stored
  exact ⟨List.mem_of_find?_eq_some stored, beq_iff_eq.mp matched⟩

theorem mem_removed_iff {before after : List Account} {flow : Flow}
    {tokenHash : String} :
    (flow, tokenHash) ∈ removed before after ↔
      holds before flow tokenHash = true ∧
        holds after flow tokenHash = false := by
  have every : flow ∈
      [Flow.passwordReset, .emailVerification, .telegramLink] := by
    cases flow <;> simp
  simp only [removed, List.mem_flatMap, List.mem_filterMap]
  constructor
  · rintro ⟨other, -, found, ⟨account, member, stored⟩, kept⟩
    split at kept
    next => cases kept
    next gone =>
      cases kept
      exact ⟨holds_iff.mpr ⟨account, member, stored⟩,
        Bool.eq_false_iff.mpr gone⟩
  · rintro ⟨held, gone⟩
    rcases holds_iff.mp held with ⟨account, member, stored⟩
    refine ⟨flow, every, tokenHash, ⟨account, member, stored⟩, ?_⟩
    rw [gone]
    rfl

theorem mem_updateById {accounts : List Account} {userId : String}
    {change : Account → Account} {account : Account}
    (member : account ∈ updateById accounts userId change) :
    ∃ old ∈ accounts, (old.id = userId ∧ account = change old) ∨
      (old.id ≠ userId ∧ account = old) := by
  rcases List.mem_map.mp member with ⟨old, oldMember, rfl⟩
  refine ⟨old, oldMember, ?_⟩
  split
  next same => exact Or.inl ⟨same, rfl⟩
  next different => exact Or.inr ⟨different, rfl⟩

/-! ## The invariant -/

/-- The row a consumption found still holds its token. -/
def Current (hashToken : String → String) (state : State n)
    (consumption : Consumption) (userId : String) : Prop :=
  ∃ account ∈ state.accounts, account.id = userId ∧
    (account.slot consumption.flow).tokenHash =
      some (hashToken consumption.token)

/-- The fingerprint of the token has left its column. -/
def Retired (hashToken : String → String) (state : State n)
    (consumption : Consumption) : Prop :=
  (consumption.flow, hashToken consumption.token) ∈ state.retired

structure Tracked (hashToken : String → String)
    (requests : Fin n → Request) (state : State n) : Prop where
  distinct : (state.accounts.map Account.id).Nodup
  unique : ∀ flow tokenHash, ∀ left ∈ state.accounts,
    ∀ right ∈ state.accounts,
      (left.slot flow).tokenHash = some tokenHash →
        (right.slot flow).tokenHash = some tokenHash → left = right
  drawn : ∀ flow tokenHash, holds state.accounts flow tokenHash = true →
    ∃ token ∈ state.issued, hashToken token = tokenHash
  gone : ∀ flow tokenHash, (flow, tokenHash) ∈ state.retired →
    (∃ token ∈ state.issued, hashToken token = tokenHash) ∧
      holds state.accounts flow tokenHash = false
  asked : ∀ request consumption,
    (state.phase request = .findingByToken consumption ∨
      ∃ userId, state.phase request = .consuming consumption userId) →
      requests request = .consume consumption
  found : ∀ request consumption userId,
    state.phase request = .consuming consumption userId →
      hasId state.accounts userId = true ∧
        (Current hashToken state consumption userId ∨
          Retired hashToken state consumption)
  spent : ∀ request consumption,
    state.phase request = .consumed →
      requests request = .consume consumption →
        Retired hashToken state consumption

theorem Initial.tracked {hashToken : String → String}
    {requests : Fin n → Request} {state : State n}
    (initial : Initial hashToken state) :
    Tracked hashToken requests state where
  distinct := initial.distinct
  unique := initial.unique
  drawn := initial.drawn
  gone flow tokenHash member := by
    rw [initial.unrecorded] at member
    cases member
  asked request consumption found := by
    rw [initial.waiting request] at found
    rcases found with reading | ⟨userId, consuming⟩
    · cases reading
    · cases consuming
  found request consumption userId found := by
    rw [initial.waiting request] at found
    cases found
  spent request consumption found := by
    rw [initial.waiting request] at found
    cases found

section Write

variable {hashToken : String → String} {requests : Fin n → Request}
  {state : State n} {request : Fin n}

/-- Where a fingerprint in the table comes from. -/
theorem Write.hash_cases (write : Write hashToken state request)
    {account : Account} (member : account ∈ write.target.accounts)
    {flow : Flow} {tokenHash : String}
    (stored : (account.slot flow).tokenHash = some tokenHash) :
    ∃ old ∈ state.accounts, account.id = old.id ∧
      (((old.slot flow).tokenHash = some tokenHash ∧
          (old.id = write.userId → flow ≠ write.flow)) ∨
        (old.id = write.userId ∧ flow = write.flow ∧
          write.slot.tokenHash = some tokenHash)) := by
  obtain ⟨old, oldMember, ⟨same, rfl⟩ | ⟨different, rfl⟩⟩ :=
    mem_updateById member
  · refine ⟨old, oldMember, write.keepsId old, ?_⟩
    rw [write.setsSlot] at stored
    by_cases written : flow = write.flow
    · rw [written, Function.update_self] at stored
      exact Or.inr ⟨same, written, stored⟩
    · rw [Function.update_of_ne written] at stored
      exact Or.inl ⟨stored, fun _ => written⟩
  · exact ⟨account, oldMember, rfl,
      Or.inl ⟨stored, fun same => (different same).elim⟩⟩

/-- What is written is not in the table yet. -/
theorem Write.slot_fresh (write : Write hashToken state request)
    (injective : Function.Injective hashToken) {tokenHash : String}
    (drawn : ∃ token ∈ state.issued, hashToken token = tokenHash) :
    write.slot.tokenHash ≠ some tokenHash := by
  intro stored
  rcases write.fresh with ⟨none, _⟩ | ⟨token, unused, _, fresh⟩
  · rw [none] at stored
    cases stored
  · rcases drawn with ⟨old, member, same⟩
    rw [fresh, Option.some.injEq, ← same] at stored
    exact unused (injective stored ▸ member)

theorem Write.issued_subset (write : Write hashToken state request) :
    state.issued ⊆ write.issued := by
  rcases write.fresh with ⟨_, same⟩ | ⟨token, _, grown, _⟩
  · rw [same]
    exact List.Subset.refl _
  · rw [grown]
    exact List.subset_append_left _ _

/-- The fingerprint that the written columns held is gone. -/
theorem Tracked.overwritten (tracked : Tracked hashToken requests state)
    (injective : Function.Injective hashToken)
    (write : Write hashToken state request) {account : Account}
    (member : account ∈ state.accounts)
    (hit : account.id = write.userId) {tokenHash : String}
    (stored : (account.slot write.flow).tokenHash = some tokenHash) :
    (write.flow, tokenHash) ∈
      removed state.accounts write.target.accounts := by
  have held : holds state.accounts write.flow tokenHash = true :=
    holds_iff.mpr ⟨account, member, stored⟩
  refine mem_removed_iff.mpr ⟨held, Bool.eq_false_iff.mpr fun still => ?_⟩
  rcases holds_iff.mp still with ⟨later, laterMember, laterStored⟩
  obtain ⟨old, oldMember, _, ⟨oldStored, missed⟩ | ⟨_, _, fresh⟩⟩ :=
    write.hash_cases laterMember laterStored
  · have same := tracked.unique _ _ old oldMember account member oldStored
      stored
    exact missed (same ▸ hit) rfl
  · exact write.slot_fresh injective (tracked.drawn _ _ held) fresh

end Write

/-! ## One step keeps it -/

theorem removed_self (accounts : List Account) :
    removed accounts accounts = [] := by
  refine List.eq_nil_iff_forall_not_mem.mpr fun entry member => ?_
  rcases mem_removed_iff.mp member with ⟨held, gone⟩
  rw [held] at gone
  cases gone

theorem phase_moveTo (state : State n) (request : Fin n) (phase : Phase) :
    (state.moveTo request phase).phase request = phase :=
  Function.update_self _ _ _

theorem phase_moveTo_of_ne {state : State n} {request other : Fin n}
    (different : other ≠ request) (phase : Phase) :
    (state.moveTo request phase).phase other = state.phase other :=
  Function.update_of_ne different _ _

section Step

variable {hashToken : String → String} {requests : Fin n → Request}
  {state next : State n} {label : Label n}

/-- What the invariant asks of one request. -/
structure RequestTracked (hashToken : String → String)
    (requests : Fin n → Request) (state : State n) (request : Fin n)
    (phase : Phase) : Prop where
  asked : ∀ consumption, (phase = .findingByToken consumption ∨
    ∃ userId, phase = .consuming consumption userId) →
      requests request = .consume consumption
  found : ∀ consumption userId, phase = .consuming consumption userId →
    hasId state.accounts userId = true ∧
      (Current hashToken state consumption userId ∨
        Retired hashToken state consumption)
  spent : ∀ consumption, phase = .consumed →
    requests request = .consume consumption →
      Retired hashToken state consumption

theorem Tracked.request (tracked : Tracked hashToken requests state)
    (request : Fin n) :
    RequestTracked hashToken requests state request (state.phase request) :=
  ⟨tracked.asked request, tracked.found request, tracked.spent request⟩

theorem RequestTracked.plain {request : Fin n} {phase : Phase}
    (plain : phase.plain = true) :
    RequestTracked hashToken requests state request phase where
  asked consumption found := by
    rcases found with rfl | ⟨userId, rfl⟩ <;> cases plain
  found consumption userId found := by
    rw [found] at plain
    cases plain
  spent consumption found := by
    rw [found] at plain
    cases plain

/-- Steps that write no columns. -/
theorem Tracked.unwritten (tracked : Tracked hashToken requests state)
    (accounts : next.accounts = state.accounts)
    (issued : state.issued ⊆ next.issued)
    (phases : ∀ request, RequestTracked hashToken requests state request
      (next.phase request)) :
    Tracked hashToken requests (state.recorded next) := by
  have retired : (state.recorded next).retired = state.retired := by
    change state.retired ++ removed state.accounts next.accounts = _
    rw [accounts, removed_self, List.append_nil]
  have kept : (state.recorded next).accounts = state.accounts := accounts
  refine ⟨?_, ?_, ?_, ?_, fun request => (phases request).asked, ?_, ?_⟩
  · rw [kept]
    exact tracked.distinct
  · rw [kept]
    exact tracked.unique
  · intro flow tokenHash held
    rw [kept] at held
    rcases tracked.drawn flow tokenHash held with ⟨token, member, same⟩
    exact ⟨token, issued member, same⟩
  · intro flow tokenHash member
    rw [retired] at member
    obtain ⟨⟨token, drawn, same⟩, missing⟩ :=
      tracked.gone flow tokenHash member
    rw [kept]
    exact ⟨⟨token, issued drawn, same⟩, missing⟩
  · intro request consumption userId found
    rw [Current, Retired, kept, retired]
    exact (phases request).found consumption userId found
  · intro request consumption found asked
    rw [Retired, retired]
    exact (phases request).spent consumption found asked

/-- One request moves on and the table stays. -/
theorem Tracked.moveTo (tracked : Tracked hashToken requests state)
    {request : Fin n} {phase : Phase} {issued : List String}
    (kept : state.issued ⊆ issued)
    (moved : RequestTracked hashToken requests state request phase) :
    Tracked hashToken requests (state.recorded
      { state.moveTo request phase with issued := issued }) := by
  refine tracked.unwritten rfl kept fun other => ?_
  change RequestTracked _ _ _ _ ((state.moveTo request phase).phase other)
  by_cases same : other = request
  · rw [same, phase_moveTo]
    exact moved
  · rw [phase_moveTo_of_ne same]
    exact tracked.request other

/-- The row a lookup found, and what is done with it. -/
theorem Tracked.checked (tracked : Tracked hashToken requests state)
    {request : Fin n} {consumption : Consumption} {account : Account}
    (reading : state.phase request = .findingByToken consumption)
    (stored : findByToken hashToken state.accounts consumption.flow
      consumption.token = some account) (now : Int) :
    RequestTracked hashToken requests state request
      (checked now consumption account) := by
  rcases findByToken_spec stored with ⟨member, matched⟩
  unfold OneTime.checked
  split
  · refine ⟨?_, ?_, by rintro _ ⟨⟩⟩
    · rintro other (⟨⟨⟩⟩ | ⟨userId, ⟨⟩⟩)
      exact tracked.asked request consumption (Or.inl reading)
    · rintro other userId ⟨⟩
      refine ⟨List.any_eq_true.mpr ⟨account, member, by simp⟩, Or.inl ?_⟩
      exact ⟨account, member, rfl, matched⟩
  · split <;> exact .plain rfl

theorem opening_tracked (request : Fin n) :
    RequestTracked hashToken requests state request
      (opening (requests request)) := by
  cases asked : requests request with
  | consume consumption =>
      refine ⟨?_, by rintro _ _ ⟨⟩, by rintro _ ⟨⟩⟩
      rintro other (⟨⟨⟩⟩ | ⟨userId, ⟨⟩⟩)
      exact asked
  | forgotPassword | resendVerification | createTelegramLink
  | unlinkTelegram => exact .plain rfl

theorem Write.hasId_target {request : Fin n}
    (write : Write hashToken state request) (userId : String) :
    hasId write.target.accounts userId = hasId state.accounts userId := by
  change (updateById state.accounts _ _).any _ = state.accounts.any _
  rw [updateById, List.any_map]
  refine List.any_congr rfl fun account => ?_
  simp only [Function.comp_apply]
  split
  · rw [write.keepsId]
  · rfl

theorem Write.ids_target {request : Fin n}
    (write : Write hashToken state request) :
    write.target.accounts.map Account.id =
      state.accounts.map Account.id := by
  change (updateById state.accounts _ _).map _ = _
  rw [updateById, List.map_map]
  refine List.map_congr_left fun account _ => ?_
  simp only [Function.comp_apply]
  split
  · exact write.keepsId account
  · rfl

/-- A token that is current before an update is so after it, or retired. -/
theorem Tracked.current_or_retired
    (tracked : Tracked hashToken requests state)
    (injective : Function.Injective hashToken) {request : Fin n}
    (write : Write hashToken state request) {consumption : Consumption}
    {userId : String}
    (current : Current hashToken state consumption userId) :
    Current hashToken (state.recorded write.target) consumption userId ∨
      Retired hashToken (state.recorded write.target) consumption := by
  rcases current with ⟨account, member, rfl, stored⟩
  have held := holds_iff.mpr ⟨account, member, stored⟩
  cases still : holds write.target.accounts consumption.flow
      (hashToken consumption.token) with
  | false =>
      exact Or.inr (List.mem_append_right _
        (mem_removed_iff.mpr ⟨held, still⟩))
  | true =>
      rcases holds_iff.mp still with ⟨later, laterMember, laterStored⟩
      obtain ⟨old, oldMember, same, ⟨oldStored, _⟩ | ⟨_, _, fresh⟩⟩ :=
        write.hash_cases laterMember laterStored
      · refine Or.inl ⟨later, laterMember, ?_, laterStored⟩
        rw [same, tracked.unique _ _ old oldMember account member oldStored
          stored]
      · exact (write.slot_fresh injective (tracked.drawn _ _ held)
          fresh).elim

/-- An update keeps every other request in order. -/
theorem Tracked.elsewhere (tracked : Tracked hashToken requests state)
    (injective : Function.Injective hashToken) {request : Fin n}
    (write : Write hashToken state request) (other : Fin n) :
    RequestTracked hashToken requests (state.recorded write.target) other
      (state.phase other) := by
  refine ⟨tracked.asked other, ?_, ?_⟩
  · intro consumption userId found
    obtain ⟨present, standing⟩ :=
      tracked.found other consumption userId found
    refine ⟨(write.hasId_target userId).trans present, ?_⟩
    rcases standing with current | retired
    · exact tracked.current_or_retired injective write current
    · exact Or.inr (List.mem_append_left _ retired)
  · intro consumption found asked
    exact List.mem_append_left _ (tracked.spent other consumption found asked)

/-- And the request that made it. -/
theorem Tracked.written (tracked : Tracked hashToken requests state)
    (injective : Function.Injective hashToken) {request : Fin n}
    (write : Write hashToken state request) :
    RequestTracked hashToken requests (state.recorded write.target) request
      write.after := by
  rcases write.ends with plain | ⟨consumed, consumption, found⟩
  · exact .plain plain
  · rw [consumed]
    refine ⟨?_, by rintro _ _ ⟨⟩, fun other _ asked => ?_⟩
    · rintro other (⟨⟨⟩⟩ | ⟨userId, ⟨⟩⟩)
    · rw [tracked.asked request consumption (Or.inr ⟨_, found⟩)] at asked
      cases asked
      have waits := write.waits
      rw [found, Phase.writes, Option.some.injEq, Prod.mk.injEq] at waits
      obtain ⟨_, ⟨account, member, hit, stored⟩ | retired⟩ :=
        tracked.found request consumption _ found
      · rw [waits.1] at stored
        refine List.mem_append_right _ ?_
        rw [waits.1]
        exact tracked.overwritten injective write member hit stored
      · exact List.mem_append_left _ retired

/-- Fingerprints stay unique. -/
theorem Tracked.unique_target (tracked : Tracked hashToken requests state)
    (injective : Function.Injective hashToken) {request : Fin n}
    (write : Write hashToken state request) (flow : Flow)
    (tokenHash : String) : ∀ left ∈ write.target.accounts,
      ∀ right ∈ write.target.accounts,
        (left.slot flow).tokenHash = some tokenHash →
          (right.slot flow).tokenHash = some tokenHash → left = right := by
  intro left leftMember right rightMember leftStored rightStored
  have same_of_id : left.id = right.id → left = right := by
    have distinct := write.ids_target ▸ tracked.distinct
    exact List.inj_on_of_nodup_map distinct leftMember rightMember
  refine same_of_id ?_
  obtain ⟨first, firstMember, firstId, firstCase⟩ :=
    write.hash_cases leftMember leftStored
  obtain ⟨second, secondMember, secondId, secondCase⟩ :=
    write.hash_cases rightMember rightStored
  rw [firstId, secondId]
  have drawn : ∀ {account : Account}, account ∈ state.accounts →
      (account.slot flow).tokenHash = some tokenHash →
        ∃ token ∈ state.issued, hashToken token = tokenHash :=
    fun member stored => tracked.drawn _ _ (holds_iff.mpr ⟨_, member, stored⟩)
  rcases firstCase with ⟨firstKept, _⟩ | ⟨firstHit, _, firstFresh⟩
  · rcases secondCase with ⟨secondKept, _⟩ | ⟨_, _, secondFresh⟩
    · rw [tracked.unique flow tokenHash first firstMember second secondMember
        firstKept secondKept]
    · exact (write.slot_fresh injective (drawn firstMember firstKept)
        secondFresh).elim
  · rcases secondCase with ⟨secondKept, _⟩ | ⟨secondHit, _, _⟩
    · exact (write.slot_fresh injective (drawn secondMember secondKept)
        firstFresh).elim
    · rw [firstHit, secondHit]

/-- And are those of drawn tokens. -/
theorem Tracked.drawn_target (tracked : Tracked hashToken requests state)
    {request : Fin n} (write : Write hashToken state request)
    {account : Account} (member : account ∈ write.target.accounts)
    {flow : Flow} {tokenHash : String}
    (stored : (account.slot flow).tokenHash = some tokenHash) :
    ∃ token ∈ write.issued, hashToken token = tokenHash := by
  obtain ⟨old, oldMember, _, ⟨kept, _⟩ | ⟨_, _, written⟩⟩ :=
    write.hash_cases member stored
  · obtain ⟨token, issued, same⟩ :=
      tracked.drawn _ _ (holds_iff.mpr ⟨old, oldMember, kept⟩)
    exact ⟨token, write.issued_subset issued, same⟩
  · rcases write.fresh with ⟨none, _⟩ | ⟨token, _, grown, fresh⟩
    · rw [none] at written
      cases written
    · rw [fresh] at written
      cases written
      exact ⟨token, by simp [grown], rfl⟩

theorem Tracked.wrote (tracked : Tracked hashToken requests state)
    (injective : Function.Injective hashToken) {request : Fin n}
    (write : Write hashToken state request) :
    Tracked hashToken requests (state.recorded write.target) := by
  have phases : ∀ other, RequestTracked hashToken requests
      (state.recorded write.target) other (write.target.phase other) := by
    intro other
    change RequestTracked _ _ _ _ ((state.moveTo request _).phase other)
    by_cases same : other = request
    · rw [same, phase_moveTo]
      exact tracked.written injective write
    · rw [phase_moveTo_of_ne same]
      exact tracked.elsewhere injective write other
  refine ⟨?_, ?_, ?_, ?_, fun other => (phases other).asked,
    fun other => (phases other).found, fun other => (phases other).spent⟩
  · change (write.target.accounts.map Account.id).Nodup
    rw [write.ids_target]
    exact tracked.distinct
  · exact tracked.unique_target injective write
  · intro flow tokenHash held
    rcases holds_iff.mp held with ⟨account, member, stored⟩
    exact tracked.drawn_target write member stored
  · intro flow tokenHash member
    have drawn : ∃ token ∈ state.issued, hashToken token = tokenHash := by
      rcases List.mem_append.mp member with old | new
      · exact (tracked.gone flow tokenHash old).1
      · exact tracked.drawn _ _ (mem_removed_iff.mp new).1
    refine ⟨?_, ?_⟩
    · rcases drawn with ⟨token, issued, same⟩
      exact ⟨token, write.issued_subset issued, same⟩
    · rcases List.mem_append.mp member with old | new
      · refine Bool.eq_false_iff.mpr fun held => ?_
        rcases holds_iff.mp held with ⟨account, accountMember, stored⟩
        obtain ⟨before, beforeMember, _, ⟨kept, _⟩ | ⟨_, _, fresh⟩⟩ :=
          write.hash_cases accountMember stored
        · have missing := (tracked.gone flow tokenHash old).2
          rw [holds_iff.mpr ⟨before, beforeMember, kept⟩] at missing
          cases missing
        · exact write.slot_fresh injective drawn fresh
      · exact (mem_removed_iff.mp new).2

theorem tracked_step (injective : Function.Injective hashToken)
    (stepped : step hashToken requests state label = some next)
    (tracked : Tracked hashToken requests state) :
    Tracked hashToken requests next := by
  rcases Option.map_eq_some_iff.mp stepped with ⟨reached, action, rfl⟩
  cases acted_of_act action with
  | tick elapsed =>
      exact tracked.unwritten rfl (List.Subset.refl _) tracked.request
  | begin found =>
      exact tracked.moveTo (List.Subset.refl _) (opening_tracked _)
  | looked found stored =>
      exact tracked.moveTo (List.Subset.refl _)
        (tracked.checked found stored _)
  | answered found plain =>
      exact tracked.moveTo (List.Subset.refl _) (.plain plain)
  | refused writer found gone kept =>
      exact tracked.moveTo kept (.plain rfl)
  | wrote writer write => exact tracked.wrote injective write

end Step

/-! ## Undisturbed consumptions -/

/-- The columns a consumption past its lookup is about to write. -/
def Phase.consumesFrom : Phase → Option (Flow × String)
  | .consuming consumption userId => some (consumption.flow, userId)
  | _ => none

/--
Whoever updates the columns of a flow in a row, no other consumption of that
flow and row stands between its lookup and its update.
-/
def Undisturbed (taken : Taken (State n) (Label n)) : Prop :=
  ∀ request, taken.label.writer = some request →
    ∀ other, other ≠ request →
      (taken.source.phase other).consumesFrom = none ∨
        (taken.source.phase other).consumesFrom ≠
          (taken.source.phase request).writes

instance (taken : Taken (State n) (Label n)) :
    Decidable (Undisturbed taken) :=
  inferInstanceAs (Decidable (∀ _, _ → ∀ _, _ → _ ∨ _))

/-- The request returns success and its effect is applied in this step. -/
def Consumes (taken : Taken (State n) (Label n)) (request : Fin n)
    (consumption : Consumption) : Prop :=
  ∃ passwordHash userId, taken.label = .consume request passwordHash ∧
    taken.source.phase request = .consuming consumption userId ∧
    taken.target.phase request = .consumed

/-- Both requests present one token of one flow. -/
def SameToken (left right : Request) : Prop :=
  ∃ first second, left = .consume first ∧ right = .consume second ∧
    first.flow = second.flow ∧ first.token = second.token

structure Orderly (hashToken : String → String)
    (requests : Fin n → Request) (state : State n) : Prop where
  tracked : Tracked hashToken requests state
  current : ∀ request consumption userId,
    state.phase request = .consuming consumption userId →
      Current hashToken state consumption userId
  once : ∀ left right, SameToken (requests left) (requests right) →
    state.phase left = .consumed → state.phase right = .consumed →
      left = right

theorem Initial.orderly {hashToken : String → String}
    {requests : Fin n → Request} {state : State n}
    (initial : Initial hashToken state) :
    Orderly hashToken requests state where
  tracked := initial.tracked
  current request consumption userId found := by
    rw [initial.waiting request] at found
    cases found
  once left right same found := by
    rw [initial.waiting left] at found
    cases found

section Order

variable {hashToken : String → String} {requests : Fin n → Request}
  {state next : State n} {label : Label n}

theorem Current.not_retired {consumption : Consumption} {userId : String}
    (current : Current hashToken state consumption userId)
    (tracked : Tracked hashToken requests state) :
    ¬ Retired hashToken state consumption := by
  intro retired
  rcases current with ⟨account, member, _, stored⟩
  have missing := (tracked.gone _ _ retired).2
  rw [holds_iff.mpr ⟨account, member, stored⟩] at missing
  cases missing

/-- An update of other columns leaves the token in place. -/
theorem Write.current_of_ne {request : Fin n}
    (write : Write hashToken state request) {consumption : Consumption}
    {userId : String}
    (elsewhere : (consumption.flow, userId) ≠ (write.flow, write.userId))
    (current : Current hashToken state consumption userId) :
    Current hashToken write.target consumption userId := by
  rcases current with ⟨account, member, rfl, stored⟩
  by_cases hit : account.id = write.userId
  · refine ⟨write.change account, List.mem_map.mpr ⟨account, member,
      if_pos hit⟩, write.keepsId account, ?_⟩
    have other : consumption.flow ≠ write.flow :=
      fun same => elsewhere (by rw [same, hit])
    rw [write.setsSlot, Function.update_of_ne other]
    exact stored
  · exact ⟨account, List.mem_map.mpr ⟨account, member, if_neg hit⟩, rfl,
      stored⟩

/-- A phase a request may enter without a word on the others. -/
structure Phase.Enters (hashToken : String → String) (state : State n)
    (phase : Phase) : Prop where
  current : ∀ consumption userId, phase = .consuming consumption userId →
    Current hashToken state consumption userId
  unconsumed : phase ≠ .consumed

theorem Phase.enters_of_plain {phase : Phase} (plain : phase.plain = true) :
    phase.Enters hashToken state where
  current consumption userId found := by
    rw [found] at plain
    cases plain
  unconsumed := by
    rintro rfl
    cases plain

theorem opening_enters (request : Request) :
    (opening request).Enters hashToken state := by
  cases request <;> exact ⟨by rintro _ _ ⟨⟩, by rintro ⟨⟩⟩

theorem checked_enters {consumption : Consumption} {account : Account}
    (stored : findByToken hashToken state.accounts consumption.flow
      consumption.token = some account) (now : Int) :
    (checked now consumption account).Enters hashToken state := by
  unfold checked
  split
  · refine ⟨?_, by rintro ⟨⟩⟩
    rintro other userId ⟨⟩
    rcases findByToken_spec stored with ⟨member, matched⟩
    exact ⟨account, member, rfl, matched⟩
  · split <;> exact Phase.enters_of_plain rfl

/-- One request moves on and the table stays. -/
theorem Orderly.moveTo (orderly : Orderly hashToken requests state)
    {request : Fin n} {phase : Phase} {issued : List String}
    (enters : phase.Enters hashToken state)
    (tracked : Tracked hashToken requests (state.recorded
      { state.moveTo request phase with issued := issued })) :
    Orderly hashToken requests (state.recorded
      { state.moveTo request phase with issued := issued }) := by
  have consumed : ∀ other,
      (state.moveTo request phase).phase other = .consumed →
        state.phase other = .consumed := by
    intro other found
    by_cases same : other = request
    · rw [same, phase_moveTo] at found
      exact (enters.unconsumed found).elim
    · rwa [phase_moveTo_of_ne same] at found
  refine ⟨tracked, fun other consumption userId found => ?_,
    fun left right same leftDone rightDone =>
      orderly.once left right same (consumed left leftDone)
        (consumed right rightDone)⟩
  change (state.moveTo request phase).phase other = _ at found
  by_cases same : other = request
  · rw [same, phase_moveTo] at found
    exact enters.current consumption userId found
  · rw [phase_moveTo_of_ne same] at found
    exact orderly.current other consumption userId found

/-- A token that is being consumed was not consumed by another request. -/
theorem Orderly.unconsumed_beside
    (orderly : Orderly hashToken requests state) {request other : Fin n}
    (write : Write hashToken state request) {mine theirs : Consumption}
    (asked : requests request = .consume mine)
    (otherAsked : requests other = .consume theirs)
    (flows : mine.flow = theirs.flow) (tokens : mine.token = theirs.token)
    (consumed : write.after = .consumed) :
    state.phase other ≠ .consumed := by
  intro before
  rcases write.ends with plain | ⟨_, consumption, found⟩
  · rw [consumed] at plain
    cases plain
  · have named := orderly.tracked.asked request consumption
      (Or.inr ⟨_, found⟩)
    rw [asked] at named
    cases named
    -- the earlier consumption has put the token on record
    have retired := orderly.tracked.spent other theirs before otherAsked
    rw [Retired, ← flows, ← tokens] at retired
    exact (orderly.current request mine _ found).not_retired
      orderly.tracked retired

/-- An update beside which no other consumption is under way. -/
theorem Orderly.wrote (orderly : Orderly hashToken requests state)
    {request : Fin n} (write : Write hashToken state request)
    (quiet : ∀ other, other ≠ request →
      (state.phase other).consumesFrom = none ∨
        (state.phase other).consumesFrom ≠ (state.phase request).writes)
    (tracked : Tracked hashToken requests (state.recorded write.target)) :
    Orderly hashToken requests (state.recorded write.target) := by
  have moved : write.target.phase = (state.moveTo request write.after).phase :=
    rfl
  refine ⟨tracked, fun other consumption userId found => ?_,
    fun left right same leftDone rightDone => ?_⟩
  · change write.target.phase other = _ at found
    rw [moved] at found
    by_cases same : other = request
    · rw [same, phase_moveTo] at found
      rcases write.ends with plain | ⟨consumed, _⟩
      · rw [found] at plain
        cases plain
      · rw [found] at consumed
        cases consumed
    · rw [phase_moveTo_of_ne same] at found
      refine write.current_of_ne (fun hit => ?_)
        (orderly.current other consumption userId found)
      have elsewhere := quiet other same
      rw [found, write.waits, Phase.consumesFrom, hit] at elsewhere
      rcases elsewhere with none | different
      · cases none
      · exact different rfl
  · change write.target.phase left = _ at leftDone
    change write.target.phase right = _ at rightDone
    rw [moved] at leftDone rightDone
    rcases same with ⟨first, second, leftAsked, rightAsked, flows, tokens⟩
    by_cases leftActs : left = request
    · by_cases rightActs : right = request
      · rw [leftActs, rightActs]
      · rw [phase_moveTo_of_ne rightActs] at rightDone
        rw [leftActs, phase_moveTo] at leftDone
        rw [leftActs] at leftAsked
        exact (orderly.unconsumed_beside write leftAsked rightAsked flows
          tokens leftDone rightDone).elim
    · rw [phase_moveTo_of_ne leftActs] at leftDone
      by_cases rightActs : right = request
      · rw [rightActs, phase_moveTo] at rightDone
        rw [rightActs] at rightAsked
        exact (orderly.unconsumed_beside write rightAsked leftAsked
          flows.symm tokens.symm rightDone leftDone).elim
      · rw [phase_moveTo_of_ne rightActs] at rightDone
        exact orderly.once left right
          ⟨first, second, leftAsked, rightAsked, flows, tokens⟩ leftDone
          rightDone

theorem orderly_step (injective : Function.Injective hashToken)
    (taken : Taken (State n) (Label n))
    (stepped : step hashToken requests taken.source taken.label =
      some taken.target)
    (undisturbed : Undisturbed taken)
    (orderly : Orderly hashToken requests taken.source) :
    Orderly hashToken requests taken.target := by
  have tracked := tracked_step injective stepped orderly.tracked
  rcases taken with ⟨source, label, target⟩
  simp only at stepped orderly tracked
  rcases Option.map_eq_some_iff.mp stepped with ⟨reached, action, rfl⟩
  cases acted_of_act action with
  | tick elapsed => exact ⟨tracked, orderly.current, orderly.once⟩
  | begin found => exact orderly.moveTo (opening_enters _) tracked
  | looked found stored =>
      exact orderly.moveTo (checked_enters stored _) tracked
  | answered found plain =>
      exact orderly.moveTo (Phase.enters_of_plain plain) tracked
  | refused writer found gone kept =>
      exact orderly.moveTo (Phase.enters_of_plain rfl) tracked
  | wrote writer write =>
      exact orderly.wrote write (undisturbed _ writer) tracked

/-- A consumption past its lookup succeeds, whatever the row now holds. -/
theorem consume_of_consuming (hashToken : String → String)
    (requests : Fin n → Request) {request : Fin n}
    {consumption : Consumption} {userId : String}
    (found : state.phase request = .consuming consumption userId)
    (present : hasId state.accounts userId = true) (passwordHash : String) :
    ∃ next, step hashToken requests state (.consume request passwordHash) =
        some next ∧ next.phase request = .consumed := by
  simp only [step, act, found, State.update, present, if_true,
    Option.map_some]
  exact ⟨_, rfl, phase_moveTo _ _ _⟩

/-- A disturbed consumption still takes effect, on a token that is gone. -/
theorem Tracked.disturbed (injective : Function.Injective hashToken)
    {taken : Taken (State n) (Label n)}
    (tracked : Tracked hashToken requests taken.source)
    (stepped : step hashToken requests taken.source taken.label =
      some taken.target)
    {request other : Fin n} (writer : taken.label.writer = some request)
    (different : other ≠ request) {consumption : Consumption}
    {userId : String}
    (found : taken.source.phase other = .consuming consumption userId)
    (writes : (taken.source.phase request).writes =
      some (consumption.flow, userId)) (passwordHash : String) :
    Retired hashToken taken.target consumption ∧
      ∃ next, step hashToken requests taken.target
          (.consume other passwordHash) = some next ∧
        Consumes ⟨taken.target, .consume other passwordHash, next⟩ other
          consumption := by
  rcases tracked.found other consumption userId found with ⟨present, standing⟩
  rcases taken with ⟨source, label, target⟩
  simp only at tracked stepped writer found writes present standing ⊢
  rcases Option.map_eq_some_iff.mp stepped with ⟨reached, action, rfl⟩
  cases acted_of_act action with
  | tick | begin | looked | answered => cases writer
  | refused acting waits gone =>
      rw [writer] at acting
      cases acting
      rw [writes] at waits
      cases waits
      rw [present] at gone
      cases gone
  | wrote acting write =>
      rw [writer] at acting
      cases acting
      have waits := write.waits
      rw [writes, Option.some.injEq, Prod.mk.injEq] at waits
      refine ⟨?_, ?_⟩
      · rcases standing with ⟨account, member, hit, stored⟩ | retired
        · rw [waits.1] at stored
          rw [Retired, waits.1]
          exact List.mem_append_right _ (tracked.overwritten injective write
            member (hit.trans waits.2) stored)
        · exact List.mem_append_left _ retired
      · have still : (source.recorded write.target).phase other =
            .consuming consumption userId :=
          (phase_moveTo_of_ne different _).trans found
        have there : hasId (source.recorded write.target).accounts userId =
            true :=
          (write.hasId_target userId).trans present
        obtain ⟨next, consumed, done⟩ := consume_of_consuming hashToken
          requests still there passwordHash
        exact ⟨next, consumed, passwordHash, userId, rfl, still, done⟩

end Order

/--
As long as no other operation writes the columns between the lookup and the
update of a consumption, a token is consumed at most once and never after its
fingerprint left the row.  A consumption that is disturbed there takes effect
all the same.
-/
theorem one_time_tokens_consumed_once (hashToken : String → String)
    (injective : Function.Injective hashToken) (requests : Fin n → Request)
    {start : State n} {labels : List (Label n)}
    (initial : Initial hashToken start) :
    ((∀ taken ∈ (machine hashToken requests).transitions start labels,
        Undisturbed taken) →
      (∀ taken ∈ (machine hashToken requests).transitions start labels,
        ∀ request consumption, Consumes taken request consumption →
          ¬ Retired hashToken taken.source consumption) ∧
      ∀ final, (machine hashToken requests).run start labels = some final →
        ∀ left right, SameToken (requests left) (requests right) →
          final.phase left = .consumed → final.phase right = .consumed →
            left = right) ∧
    ∀ taken ∈ (machine hashToken requests).transitions start labels,
      ∀ request other consumption userId passwordHash,
        taken.label.writer = some request → other ≠ request →
        taken.source.phase other = .consuming consumption userId →
        (taken.source.phase request).writes =
          some (consumption.flow, userId) →
        Retired hashToken taken.target consumption ∧
          ∃ next, (machine hashToken requests).step taken.target
              (.consume other passwordHash) = some next ∧
            Consumes ⟨taken.target, .consume other passwordHash, next⟩ other
              consumption := by
  refine ⟨fun undisturbed => ⟨?_, ?_⟩, ?_⟩
  · intro taken member request consumption consumes
    have orderly : Orderly hashToken requests taken.source :=
      (Machine.transitions_invariant (orderly_step injective)
        initial.orderly undisturbed member).1
    rcases consumes with ⟨_, userId, _, found, _⟩
    exact (orderly.current request consumption userId found).not_retired
      orderly.tracked
  · intro final reached
    have orderly : Orderly hashToken requests final :=
      Machine.run_invariant (orderly_step injective) initial.orderly
        undisturbed reached
    exact orderly.once
  · intro taken member request other consumption userId passwordHash writer
      different found writes
    have tracked : Tracked hashToken requests taken.source :=
      Machine.source_preserves _ (tracked_step injective) initial.tracked
        member
    exact tracked.disturbed injective
      (Machine.step_of_mem_transitions _ member) writer different found
      writes passwordHash

/-! ## Two resets with one link -/

def linked : Account where
  id := "u"
  email := "e"
  passwordHash := "p"
  emailVerified := true
  telegramChatId := none
  slot
    | .passwordReset => ⟨some "t", some 5000⟩
    | _ => .empty

def resettable : State n where
  clock := 0
  accounts := [linked]
  issued := ["t"]
  phase _ := .waiting
  retired := []

theorem resettable_initial : Initial id (resettable : State n) where
  waiting _ := rfl
  distinct := by simp [resettable]
  unique flow tokenHash left leftMember right rightMember _ _ := by
    rw [List.mem_singleton.mp leftMember, List.mem_singleton.mp rightMember]
  drawn flow tokenHash held := by
    rcases holds_iff.mp held with ⟨account, member, stored⟩
    rw [List.mem_singleton.mp member] at stored
    cases flow with
    | passwordReset =>
        cases stored
        exact ⟨"t", List.mem_singleton.mpr rfl, rfl⟩
    | emailVerification | telegramLink => cases stored
  unrecorded := rfl

def resetting (_ : Fin n) : Request :=
  .consume (.resetPassword "t")

/-- One after the other, only the first reset succeeds. -/
theorem second_reset_refused :
    ∃ final : State 2, (machine id resetting).run resettable
        [.begin 0, .find 0, .consume 0 "x", .begin 1, .find 1] =
          some final ∧
      final.phase 0 = .consumed ∧ final.phase 1 ≠ .consumed := by
  obtain ⟨final, reached⟩ : ∃ final : State 2,
      (machine id resetting).run resettable
        [.begin 0, .find 0, .consume 0 "x", .begin 1, .find 1] =
          some final := ⟨_, rfl⟩
  have first : final.phase 0 = .consumed := by
    cases reached
    rfl
  refine ⟨final, reached, first, fun second => ?_⟩
  have once := ((one_time_tokens_consumed_once id Function.injective_id
    resetting resettable_initial).1 (by decide)).2 final reached 0 1
      ⟨_, _, rfl, rfl, rfl, rfl⟩ first second
  exact absurd once (by decide)

/-- Both look the token up before either writes, and both succeed. -/
theorem reset_link_consumed_twice :
    ∃ final : State 2, (machine id resetting).run resettable
        [.begin 0, .find 0, .begin 1, .find 1, .consume 0 "x",
          .consume 1 "y"] = some final ∧
      SameToken (resetting (0 : Fin 2)) (resetting (1 : Fin 2)) ∧
      final.phase 0 = .consumed ∧ final.phase 1 = .consumed :=
  ⟨_, rfl, ⟨_, _, rfl, rfl, rfl, rfl⟩, rfl, rfl⟩

end WeatherNotify.OneTime
