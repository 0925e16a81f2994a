import WeatherNotify.Auth.Sessions

/-!
# A refresh token is spent at most once

The `revoked` flag of a row is set at most once in the life of the system: it
is never cleared, a deleted row never comes back because its id is never drawn
again, and a row inserted by a rotation carries a new id.  A refresh succeeds
only after its own rotation set the flag, whatever its earlier read returned.
So the one step that set the flag names the one request that may succeed.
-/

namespace WeatherNotify.Auth

open WeatherNotify.Transition

variable {n : Nat}

/-! ## Flags set by a statement -/

theorem mem_flipped_iff {before after : List TokenRow} {jti : String} :
    jti ∈ flipped before after ↔
      ∃ row ∈ before, row.id = jti ∧ row.revoked = false ∧
        ∃ stored ∈ after, stored.id = jti ∧ stored.revoked = true := by
  simp only [flipped, List.mem_map, List.mem_filter, Bool.and_eq_true,
    Bool.not_eq_true', List.any_eq_true, beq_iff_eq]
  constructor
  · rintro ⟨row, ⟨member, live, stored, storedMember, same, revoked⟩, rfl⟩
    exact ⟨row, member, rfl, live, stored, storedMember, same, revoked⟩
  · rintro ⟨row, member, rfl, live, stored, storedMember, same, revoked⟩
    exact ⟨row, ⟨member, live, stored, storedMember, same, revoked⟩, rfl⟩

theorem flipped_nodup {before : List TokenRow}
    (distinct : (before.map TokenRow.id).Nodup) (after : List TokenRow) :
    (flipped before after).Nodup :=
  distinct.sublist (List.filter_sublist.map _)

theorem row_unique {tokens : List TokenRow}
    (distinct : (tokens.map TokenRow.id).Nodup)
    {left right : TokenRow} (leftMember : left ∈ tokens)
    (rightMember : right ∈ tokens) (same : left.id = right.id) :
    left = right :=
  List.inj_on_of_nodup_map distinct leftMember rightMember same

/-- Appending live rows sets no flag. -/
theorem flipped_append_of_live {tokens : List TokenRow}
    (distinct : (tokens.map TokenRow.id).Nodup) {added : List TokenRow}
    (live : ∀ row ∈ added, row.revoked = false) :
    flipped tokens (tokens ++ added) = [] := by
  refine List.eq_nil_iff_forall_not_mem.mpr fun jti member => ?_
  obtain ⟨row, rowMember, same, unrevoked, stored, storedMember,
    storedSame, revoked⟩ := mem_flipped_iff.mp member
  rcases List.mem_append.mp storedMember with old | new
  · have equal := row_unique distinct rowMember old
      (same.trans storedSame.symm)
    rw [← equal, unrevoked] at revoked
    cases revoked
  · rw [live stored new] at revoked
    cases revoked

theorem flipped_self {tokens : List TokenRow}
    (distinct : (tokens.map TokenRow.id).Nodup) :
    flipped tokens tokens = [] := by
  have nothing : ∀ row ∈ ([] : List TokenRow), row.revoked = false := by
    simp
  have same := flipped_append_of_live distinct nothing
  rwa [List.append_nil] at same

/-- Statements that only delete rows and set flags. -/
structure Narrows (before after : List TokenRow) : Prop where
  distinct : (after.map TokenRow.id).Nodup
  stems : ∀ stored ∈ after, ∃ row ∈ before, row.id = stored.id ∧
    (row.revoked = true → stored.revoked = true)

theorem revokeWhere_ids (hit : TokenRow → Bool) (tokens : List TokenRow) :
    (revokeWhere hit tokens).map TokenRow.id = tokens.map TokenRow.id := by
  rw [revokeWhere, List.map_map]
  refine List.map_congr_left fun row _ => ?_
  simp only [Function.comp_apply]
  split <;> rfl

theorem narrows_revokeWhere {tokens : List TokenRow}
    (distinct : (tokens.map TokenRow.id).Nodup) (hit : TokenRow → Bool) :
    Narrows tokens (revokeWhere hit tokens) where
  distinct := by
    rw [revokeWhere_ids]
    exact distinct
  stems stored member := by
    obtain ⟨row, rowMember, rfl⟩ := List.mem_map.mp member
    refine ⟨row, rowMember, ?_⟩
    split
    · exact ⟨rfl, fun _ => rfl⟩
    · exact ⟨rfl, id⟩

theorem narrows_filter {tokens : List TokenRow}
    (distinct : (tokens.map TokenRow.id).Nodup) (keep : TokenRow → Bool) :
    Narrows tokens (tokens.filter keep) where
  distinct := distinct.sublist (List.filter_sublist.map _)
  stems stored member :=
    ⟨stored, (List.mem_filter.mp member).1, rfl, id⟩

/-- A conditional update that hits a live row sets its flag. -/
theorem mem_flipped_revokeWhere {tokens : List TokenRow} {jti : String}
    (counted :
      revokedCount (fun stored => stored.id == jti) tokens ≠ 0) :
    jti ∈ flipped tokens
      (revokeWhere (fun stored => stored.id == jti) tokens) := by
  obtain ⟨row, member, hit⟩ :=
    List.countP_pos_iff.mp (Nat.pos_of_ne_zero counted)
  simp only [Bool.and_eq_true, beq_iff_eq, Bool.not_eq_true']
    at hit
  refine mem_flipped_iff.mpr ⟨row, member, hit.1, hit.2,
    { row with revoked := true }, ?_, hit.1, rfl⟩
  refine List.mem_map.mpr ⟨row, member, ?_⟩
  simp [hit.1, hit.2]

/-! ## The invariant -/

namespace Phase

/-- Phases a refresh reaches only behind its rotation. -/
def spent : Phase → Bool
  | .readingRole _ _ | .signingAccess _ _ _ | .signingRefresh _ _ _
  | .inserting _ _ _ | .returned _ => true
  | _ => false

/-- The id a request has drawn and not inserted yet. -/
def reserved : Phase → Option String
  | .inserting _ jti _ => some jti
  | _ => none

/-- What a refresh carries along is what its token says. -/
def Carries (decoded : Option RefreshPayload) : Phase → Prop
  | .findingTaken _ | .creatingUser _ | .storingVerification _ _
  | .findingUser _ _ | .comparing _ _ => False
  | .readingToken _ carried => decoded = some carried
  | .checkingToken _ carried row | .rotating carried row =>
      decoded = some carried ∧ row.id = carried.jti
  | _ => True

end Phase

/-- The request is a refresh whose token says `decoded`, if anything. -/
def Presents (crypto : Crypto) (request : Request)
    (decoded : Option RefreshPayload) : Prop :=
  ∃ token, request = .refresh token ∧
    (crypto.decodeRefresh token).map Prod.fst = decoded

/-- The rotation of the request set the flag of the row its token names. -/
def Rotated (state : State n) (request : Fin n)
    (decoded : Option RefreshPayload) : Prop :=
  ∃ payload, decoded = some payload ∧
    (payload.jti, .rotate request) ∈ state.revocations

structure Spending (crypto : Crypto) (requests : Fin n → Request)
    (state : State n) : Prop where
  distinct : (state.tokens.map TokenRow.id).Nodup
  issued : ∀ row ∈ state.tokens, row.id ∈ state.issued
  reserved : ∀ request jti, (state.phase request).reserved = some jti →
    jti ∈ state.issued ∧ jti ∉ state.tokens.map TokenRow.id ∧
      jti ∉ state.revocations.map Prod.fst
  reservedOnce : ∀ left right jti,
    (state.phase left).reserved = some jti →
      (state.phase right).reserved = some jti → left = right
  once : (state.revocations.map Prod.fst).Nodup
  closed : ∀ jti ∈ state.revocations.map Prod.fst,
    jti ∈ state.issued ∧
      ∀ row ∈ state.tokens, row.id = jti → row.revoked = true
  carries : ∀ request decoded, Presents crypto (requests request) decoded →
    (state.phase request).Carries decoded
  owned : ∀ request decoded, Presents crypto (requests request) decoded →
    (state.phase request).spent = true → Rotated state request decoded

theorem Initial.spending {crypto : Crypto} {requests : Fin n → Request}
    {state : State n} (initial : Initial state) :
    Spending crypto requests state where
  distinct := initial.distinct
  issued := initial.issued
  reserved request _ drawn := by
    rw [initial.waiting request] at drawn
    cases drawn
  reservedOnce left _ _ drawn := by
    rw [initial.waiting left] at drawn
    cases drawn
  once := by
    rw [initial.unrecorded]
    exact List.nodup_nil
  closed _ member := by
    rw [initial.unrecorded] at member
    cases member
  carries request _ _ := by
    rw [initial.waiting request]
    trivial
  owned request _ _ behind := by
    rw [initial.waiting request] at behind
    cases behind

namespace Spending

variable {crypto : Crypto} {requests : Fin n → Request} {state : State n}

/-- One request moves on; an id it has drawn is nobody else's. -/
theorem moveTo (spending : Spending crypto requests state)
    {request : Fin n} {phase : Phase}
    (drawn : ∀ jti, phase.reserved = some jti →
      (jti ∈ state.issued ∧ jti ∉ state.tokens.map TokenRow.id ∧
        jti ∉ state.revocations.map Prod.fst) ∧
      ∀ other, (state.phase other).reserved ≠ some jti)
    (carries : ∀ decoded, Presents crypto (requests request) decoded →
      phase.Carries decoded)
    (owned : ∀ decoded, Presents crypto (requests request) decoded →
      phase.spent = true → Rotated state request decoded) :
    Spending crypto requests (state.moveTo request phase) where
  distinct := spending.distinct
  issued := spending.issued
  reserved := by
    refine (Function.forall_update_iff state.phase fun _ phase =>
      ∀ jti, phase.reserved = some jti → jti ∈ state.issued ∧
        jti ∉ state.tokens.map TokenRow.id ∧
          jti ∉ state.revocations.map Prod.fst).mpr ⟨?_, ?_⟩
    · exact fun jti holds => (drawn jti holds).1
    · exact fun other _ => spending.reserved other
  reservedOnce left right jti leftHolds rightHolds := by
    by_cases leftSame : left = request
    · by_cases rightSame : right = request
      · rw [leftSame, rightSame]
      · subst leftSame
        simp only [State.moveTo, Function.update_self] at leftHolds
        simp only [State.moveTo, Function.update_of_ne rightSame]
          at rightHolds
        exact ((drawn jti leftHolds).2 right rightHolds).elim
    · simp only [State.moveTo, Function.update_of_ne leftSame] at leftHolds
      by_cases rightSame : right = request
      · subst rightSame
        simp only [State.moveTo, Function.update_self] at rightHolds
        exact ((drawn jti rightHolds).2 left leftHolds).elim
      · simp only [State.moveTo, Function.update_of_ne rightSame]
          at rightHolds
        exact spending.reservedOnce left right jti leftHolds rightHolds
  once := spending.once
  closed := spending.closed
  carries := by
    refine (Function.forall_update_iff state.phase fun other phase =>
      ∀ decoded, Presents crypto (requests other) decoded →
        phase.Carries decoded).mpr ⟨carries, ?_⟩
    exact fun other _ => spending.carries other
  owned := by
    refine (Function.forall_update_iff state.phase fun other phase =>
      ∀ decoded, Presents crypto (requests other) decoded →
        phase.spent = true → Rotated state other decoded).mpr ⟨owned, ?_⟩
    exact fun other _ => spending.owned other

/-- A move to a phase that neither draws an id nor spends anything. -/
theorem moveToPlain (spending : Spending crypto requests state)
    {request : Fin n} {phase : Phase}
    (undrawn : phase.reserved = none)
    (unspent : phase.spent = false)
    (carries : ∀ decoded, Presents crypto (requests request) decoded →
      phase.Carries decoded) :
    Spending crypto requests (state.moveTo request phase) := by
  refine spending.moveTo ?_ carries ?_
  · intro jti holds
    rw [undrawn] at holds
    cases holds
  · intro decoded _ behind
    rw [unspent] at behind
    cases behind

/-- A request behind its rotation stays behind it. -/
theorem moveToSpent (spending : Spending crypto requests state)
    {request : Fin n} {phase : Phase}
    (behind : (state.phase request).spent = true)
    (undrawn : phase.reserved = none)
    (carries : ∀ decoded, phase.Carries decoded) :
    Spending crypto requests (state.moveTo request phase) := by
  refine spending.moveTo ?_ (fun decoded _ => carries decoded) ?_
  · intro jti holds
    rw [undrawn] at holds
    cases holds
  · exact fun decoded presents _ =>
      spending.owned request decoded presents behind

/-- Drawing an id nobody ever used. -/
theorem withIssued (spending : Spending crypto requests state)
    (jti : String) :
    Spending crypto requests
      { state with issued := state.issued ++ [jti] } where
  distinct := spending.distinct
  issued row member :=
    List.mem_append_left _ (spending.issued row member)
  reserved request other holds := by
    obtain ⟨known, rest⟩ := spending.reserved request other holds
    exact ⟨List.mem_append_left _ known, rest⟩
  reservedOnce := spending.reservedOnce
  once := spending.once
  closed other member := by
    obtain ⟨known, revoked⟩ := spending.closed other member
    exact ⟨List.mem_append_left _ known, revoked⟩
  carries := spending.carries
  owned := spending.owned

/-- The row of a drawn id is inserted and the id no longer reserved. -/
theorem inserted (spending : Spending crypto requests state)
    {request : Fin n} {row : TokenRow} {tokens : Tokens}
    (holds : (state.phase request).reserved = some row.id)
    (behind : (state.phase request).spent = true)
    (live : row.revoked = false) (label : Label n) :
    Spending crypto requests
      (state.recorded label
        { state.moveTo request (.returned tokens) with
          tokens := state.tokens ++ [row] }) := by
  obtain ⟨known, absent, unrecorded⟩ :=
    spending.reserved request row.id holds
  have moved : Spending crypto requests
      (state.moveTo request (.returned tokens)) :=
    spending.moveToSpent behind rfl fun _ => trivial
  have nothing : flipped state.tokens (state.tokens ++ [row]) = [] :=
    flipped_append_of_live spending.distinct (by simpa using live)
  have elsewhere : ∀ other jti,
      ((state.moveTo request (.returned tokens)).phase other).reserved =
        some jti → jti ≠ row.id := by
    rintro other jti drawn rfl
    by_cases same : other = request
    · subst same
      simp [State.moveTo, Phase.reserved] at drawn
    · simp only [State.moveTo, Function.update_of_ne same] at drawn
      exact same (spending.reservedOnce other request row.id drawn holds)
  simp only [State.recorded, nothing, List.map_nil, List.append_nil]
  refine ⟨?_, ?_, ?_, moved.reservedOnce, spending.once, ?_,
    moved.carries, moved.owned⟩
  · rw [List.map_append]
    refine List.nodup_append.mpr ⟨spending.distinct, by simp, ?_⟩
    rintro id old other new rfl
    rw [List.map_singleton, List.mem_singleton] at new
    rw [new] at old
    exact absent old
  · intro stored member
    rcases List.mem_append.mp member with old | new
    · exact spending.issued stored old
    · rw [List.mem_singleton.mp new]
      exact known
  · intro other jti drawn
    obtain ⟨drawnKnown, drawnAbsent, drawnUnrecorded⟩ :=
      moved.reserved other jti drawn
    refine ⟨drawnKnown, ?_, drawnUnrecorded⟩
    rw [List.map_append, List.mem_append, not_or]
    refine ⟨drawnAbsent, ?_⟩
    simpa using elsewhere other jti drawn
  · intro jti member
    obtain ⟨closedKnown, revoked⟩ := spending.closed jti member
    refine ⟨closedKnown, fun stored storedMember same => ?_⟩
    rcases List.mem_append.mp storedMember with old | new
    · exact revoked stored old same
    · rw [List.mem_singleton.mp new] at same
      rw [same] at unrecorded
      exact (unrecorded member).elim

/-- A statement that only deletes rows and sets flags, put on record. -/
theorem narrowed (spending : Spending crypto requests state)
    {after : List TokenRow} (narrows : Narrows state.tokens after)
    (label : Label n) :
    Spending crypto requests
      (state.recorded label { state with tokens := after }) := by
  have fresh : ∀ jti ∈ flipped state.tokens after,
      jti ∉ state.revocations.map Prod.fst := by
    intro jti member known
    obtain ⟨row, rowMember, same, live, _⟩ := mem_flipped_iff.mp member
    rw [(spending.closed jti known).2 row rowMember same] at live
    cases live
  have recorded :
      (state.revocations ++ (flipped state.tokens after).map
        fun jti => (jti, label)).map Prod.fst =
        state.revocations.map Prod.fst ++ flipped state.tokens after := by
    simp [List.map_append, Function.comp_def]
  have ids : ∀ id ∈ after.map TokenRow.id,
      id ∈ state.tokens.map TokenRow.id := by
    intro id member
    obtain ⟨stored, storedMember, rfl⟩ := List.mem_map.mp member
    obtain ⟨row, rowMember, same, _⟩ := narrows.stems stored storedMember
    exact List.mem_map.mpr ⟨row, rowMember, same⟩
  refine ⟨narrows.distinct, ?_, ?_, spending.reservedOnce, ?_, ?_,
    spending.carries, ?_⟩
  · intro stored member
    obtain ⟨row, rowMember, same, _⟩ := narrows.stems stored member
    rw [← same]
    exact spending.issued row rowMember
  · intro request jti drawn
    obtain ⟨known, absent, unrecorded⟩ :=
      spending.reserved request jti drawn
    refine ⟨known, fun member => absent (ids jti member), ?_⟩
    simp only [State.recorded, recorded]
    intro member
    rcases List.mem_append.mp member with old | new
    · exact unrecorded old
    · obtain ⟨row, rowMember, same, _⟩ := mem_flipped_iff.mp new
      exact absent (List.mem_map.mpr ⟨row, rowMember, same⟩)
  · simp only [State.recorded, recorded]
    refine List.nodup_append.mpr
      ⟨spending.once, flipped_nodup spending.distinct after, ?_⟩
    rintro jti old other new rfl
    exact fresh jti new old
  · simp only [State.recorded, recorded]
    intro jti member
    rcases List.mem_append.mp member with old | new
    · refine ⟨(spending.closed jti old).1, fun stored storedMember same => ?_⟩
      obtain ⟨row, rowMember, sameRow, kept⟩ :=
        narrows.stems stored storedMember
      exact kept ((spending.closed jti old).2 row rowMember
        (sameRow.trans same))
    · obtain ⟨row, rowMember, same, _, marked, markedMember, markedSame,
        revoked⟩ := mem_flipped_iff.mp new
      refine ⟨?_, fun stored storedMember storedSame => ?_⟩
      · rw [← same]
        exact spending.issued row rowMember
      · rw [row_unique narrows.distinct storedMember markedMember
          (storedSame.trans markedSame.symm)]
        exact revoked
  · intro request decoded presents behind
    obtain ⟨payload, said, rotated⟩ :=
      spending.owned request decoded presents behind
    exact ⟨payload, said, List.mem_append_left _ rotated⟩

/-- Neither the clock nor the users matter. -/
theorem elsewhere (spending : Spending crypto requests state)
    (clock : Int) (users : List UserRow) :
    Spending crypto requests
      { state with clock := clock, users := users } :=
  ⟨spending.distinct, spending.issued, spending.reserved,
    spending.reservedOnce, spending.once, spending.closed,
    spending.carries, spending.owned⟩

/-- A step that leaves the table alone records nothing. -/
theorem still (spending : Spending crypto requests state)
    {next : State n} (moved : Spending crypto requests next)
    (tokens : next.tokens = state.tokens)
    (revocations : next.revocations = state.revocations)
    (label : Label n) :
    Spending crypto requests (state.recorded label next) := by
  have nothing : flipped state.tokens next.tokens = [] := by
    rw [tokens]
    exact flipped_self spending.distinct
  have unrecorded : state.recorded label next = next := by
    unfold State.recorded
    rw [nothing, List.map_nil, List.append_nil, ← revocations]
  rw [unrecorded]
  exact moved

end Spending

/-! ## Phases reached by each step -/

theorem opening_plain (crypto : Crypto) (now : Int) (request : Request) :
    (opening crypto now request).reserved = none ∧
      (opening crypto now request).spent = false := by
  cases request <;> simp only [opening]
  case refresh token => split <;> exact ⟨rfl, rfl⟩
  case logout token => split <;> exact ⟨rfl, rfl⟩
  all_goals exact ⟨rfl, rfl⟩

theorem opening_carries {crypto : Crypto} {now : Int} {request : Request}
    {decoded : Option RefreshPayload}
    (presents : Presents crypto request decoded) :
    (opening crypto now request).Carries decoded := by
  obtain ⟨token, rfl, rfl⟩ := presents
  simp only [opening, Crypto.verifyRefresh]
  cases crypto.decodeRefresh token with
  | none => trivial
  | some said =>
      obtain ⟨payload, exp⟩ := said
      by_cases unexpired : now / 1000 < exp
      · simp [unexpired, Phase.Carries]
      · simp [unexpired, Phase.Carries]

theorem checked_plain (crypto : Crypto) (now : Int) (token : String)
    (payload : RefreshPayload) (row : TokenRow) :
    (checked crypto now token payload row).reserved = none ∧
      (checked crypto now token payload row).spent = false := by
  unfold checked
  split
  · exact ⟨rfl, rfl⟩
  · split
    · exact ⟨rfl, rfl⟩
    · split <;> exact ⟨rfl, rfl⟩

theorem checked_carries {crypto : Crypto} {now : Int} {token : String}
    {decoded : Option RefreshPayload} {carried : RefreshPayload}
    {row : TokenRow}
    (carries : Phase.Carries decoded (.checkingToken token carried row)) :
    (checked crypto now token carried row).Carries decoded := by
  unfold checked
  split
  · trivial
  · split
    · trivial
    · split
      · trivial
      · exact carries

theorem findToken_id {tokens : List TokenRow} {jti : String}
    {row : TokenRow} (found : findToken tokens jti = some row) :
    row.id = jti := by
  have hit := List.find?_some found
  exact beq_iff_eq.mp hit

/-! ## Runs -/

/-- One step, whatever request takes it, keeps the invariant. -/
theorem spending_step {crypto : Crypto} {config : Config}
    {requests : Fin n → Request} {state next : State n} {label : Label n}
    (stepped : step crypto config requests state label = some next)
    (spending : Spending crypto requests state) :
    Spending crypto requests next := by
  obtain ⟨acted, action, rfl⟩ := Option.map_eq_some_iff.mp stepped
  have plain : ∀ {request : Fin n} {phase : Phase},
      phase.reserved = none → phase.spent = false →
        (∀ decoded, Presents crypto (requests request) decoded →
          phase.Carries decoded) →
        Spending crypto requests
          (state.recorded label (state.moveTo request phase)) :=
    fun undrawn unspent carries =>
      spending.still (spending.moveToPlain undrawn unspent carries)
        rfl rfl label
  -- a request that is in a phase no refresh ever reaches is not a refresh
  have notRefresh : ∀ {request : Fin n},
      (∀ decoded, ¬ (state.phase request).Carries decoded) →
        ∀ decoded, ¬ Presents crypto (requests request) decoded :=
    fun foreign decoded presents =>
      foreign decoded (spending.carries _ decoded presents)
  cases acted_of_act action with
  | tick elapsed =>
      exact spending.still
        (spending.elsewhere (state.clock + elapsed) state.users) rfl rfl _
  | begin found =>
      exact plain (opening_plain _ _ _).1 (opening_plain _ _ _).2
        fun decoded presents => opening_carries presents
  | emailFree found | findUser found =>
      have foreign := notRefresh (by rw [found]; exact fun _ => id)
      exact plain rfl rfl fun decoded presents =>
        (foreign decoded presents).elim
  | @userCreated request email userId passwordHash found unused named free =>
      have foreign := notRefresh (by rw [found]; exact fun _ => id)
      refine spending.still
        (((spending.withIssued userId).elsewhere state.clock
          (state.users ++ [newUser userId email passwordHash])).moveToPlain
            rfl rfl ?_) rfl rfl _
      exact fun decoded presents => (foreign decoded presents).elim
  | verificationStored found present | loggedIn found accepted =>
      have foreign := notRefresh (by rw [found]; exact fun _ => id)
      refine spending.still (spending.moveTo ?_ ?_ ?_) rfl rfl _
      · intro jti holds
        cases holds
      · exact fun decoded presents => (foreign decoded presents).elim
      · exact fun decoded presents => (foreign decoded presents).elim
  | @tokenRead request token payload row found stored =>
      refine plain rfl rfl fun decoded presents => ?_
      have carries := spending.carries request decoded presents
      rw [found] at carries
      exact ⟨carries, findToken_id stored⟩
  | @checkToken request token payload row found =>
      refine plain (checked_plain _ _ _ _ _).1 (checked_plain _ _ _ _ _).2
        fun decoded presents => checked_carries ?_
      have carries := spending.carries request decoded presents
      rw [found] at carries
      exact carries
  | emailTaken | emailRaced | verificationGone | loginRejected | tokenMissing | reused | insertRejected | resetRejected
  | resetFound | resetGone => exact plain rfl rfl fun _ _ => trivial
  | @rotated request payload row found counted =>
      have narrowed := spending.narrowed
        (narrows_revokeWhere spending.distinct
          fun stored => stored.id == row.id) (.rotate request)
      refine narrowed.moveTo ?_ (fun _ _ => trivial) ?_
      · intro jti holds
        cases holds
      · intro decoded presents _
        have carries := spending.carries request decoded presents
        rw [found] at carries
        refine ⟨payload, carries.1, List.mem_append_right _
          (List.mem_map.mpr ⟨payload.jti, ?_, rfl⟩)⟩
        rw [← carries.2]
        exact mem_flipped_revokeWhere counted
  | revokeFamily found | revokeToken found =>
      exact (spending.narrowed
        (narrows_revokeWhere spending.distinct _) _).moveToPlain
          rfl rfl fun _ _ => trivial
  | readRole found | signAccess found =>
      refine spending.still (spending.moveToSpent ?_ ?_ ?_) rfl rfl _
      · rw [found]
        rfl
      · rfl
      · exact fun _ => trivial
  | @signRefresh request userId email accessToken jti found unused =>
      refine spending.still
        ((spending.withIssued jti).moveTo ?_ ?_ ?_) rfl rfl _
      · rintro drawn ⟨rfl⟩
        refine ⟨⟨by simp, ?_, ?_⟩, ?_⟩
        · intro member
          obtain ⟨row, rowMember, rfl⟩ := List.mem_map.mp member
          exact unused (spending.issued row rowMember)
        · exact fun member => unused (spending.closed jti member).1
        · exact fun other holds =>
            unused (spending.reserved other jti holds).1
      · exact fun _ _ => trivial
      · intro decoded presents _
        refine spending.owned request decoded presents ?_
        rw [found]
        rfl
  | inserted found present =>
      exact spending.inserted (by rw [found]; rfl) (by rw [found]; rfl)
        rfl _
  | @resetPassword request userId passwordHash found present =>
      have narrowed := spending.narrowed
        (narrows_revokeWhere spending.distinct
          fun stored => stored.userId == userId)
        (.resetPassword request passwordHash)
      exact (narrowed.elsewhere _ _).moveToPlain rfl rfl
        fun _ _ => trivial
  | deleteExpired found =>
      exact (spending.narrowed
        (narrows_filter spending.distinct _) _).moveToPlain
          rfl rfl fun _ _ => trivial
  | deleteUser userId =>
      exact (spending.narrowed
        (narrows_filter spending.distinct _) _).elsewhere _ _

/-- The request has returned a new pair of tokens. -/
def Succeeded (state : State n) (request : Fin n) : Prop :=
  ∃ tokens, state.phase request = .returned tokens

/-- A refresh that succeeded rotated the row its token names. -/
theorem Spending.rotated_of_succeeded {crypto : Crypto}
    {requests : Fin n → Request} {state : State n}
    (spending : Spending crypto requests state)
    {request : Fin n} {token : String}
    (asked : requests request = .refresh token)
    (succeeded : Succeeded state request) :
    Rotated state request
      ((crypto.decodeRefresh token).map Prod.fst) := by
  obtain ⟨tokens, returned⟩ := succeeded
  refine spending.owned request _ ⟨token, asked, rfl⟩ ?_
  rw [returned]
  rfl

/-- At most one step ever set the flag of a row. -/
theorem Spending.revocation_unique {crypto : Crypto}
    {requests : Fin n → Request} {state : State n}
    (spending : Spending crypto requests state)
    {jti : String} {left right : Label n}
    (leftMember : (jti, left) ∈ state.revocations)
    (rightMember : (jti, right) ∈ state.revocations) : left = right :=
  congrArg Prod.snd
    (List.inj_on_of_nodup_map spending.once leftMember rightMember rfl)

/--
In every run, two successful refreshes with one token are the same request,
and a step that set the flag of the row the token names is the rotation of the
request that succeeds with it.
-/
theorem refresh_token_spent_once (crypto : Crypto) (config : Config)
    (requests : Fin n → Request) {start final : State n}
    {labels : List (Label n)} (initial : Initial start)
    (reached :
      (machine crypto config requests).run start labels = some final) :
    (∀ left right token, requests left = .refresh token →
      requests right = .refresh token →
        Succeeded final left → Succeeded final right → left = right) ∧
    ∀ request token payload exp, requests request = .refresh token →
      crypto.decodeRefresh token = some (payload, exp) →
        Succeeded final request →
          ∀ label, (payload.jti, label) ∈ final.revocations →
            label = .rotate request := by
  have spending : Spending crypto requests final :=
    Machine.run_preserves (Spending crypto requests) spending_step
      initial.spending reached
  constructor
  · intro left right token leftAsked rightAsked leftDone rightDone
    obtain ⟨payload, said, leftRotated⟩ :=
      spending.rotated_of_succeeded leftAsked leftDone
    obtain ⟨other, otherSaid, rightRotated⟩ :=
      spending.rotated_of_succeeded rightAsked rightDone
    rw [said] at otherSaid
    cases otherSaid
    cases spending.revocation_unique leftRotated rightRotated
    rfl
  · intro request token payload exp asked decoded succeeded label member
    obtain ⟨said, known, rotated⟩ :=
      spending.rotated_of_succeeded asked succeeded
    rw [decoded] at known
    cases known
    exact spending.revocation_unique member rotated

/-- One signed token, whose row is live. -/
def oneToken : Crypto where
  signAccess payload _ := "access " ++ payload.sub
  signRefresh payload _ := "refresh " ++ payload.jti
  decodeRefresh token :=
    if token = "refresh first" then
      some (⟨"ada", some "ada@example.org", "first"⟩, 604800)
    else none
  hashToken token := token
  comparePassword _ _ := false

def oneSession : State 2 where
  clock := 0
  users := [⟨"ada", "ada@example.org", "hash", .user, true, none, none⟩]
  tokens := [⟨"first", "ada", "refresh first", 604800000, false⟩]
  issued := ["first"]
  phase _ := .waiting
  revocations := []

/-- Both requests read the live row before either rotates it. -/
def racingRefreshes : List (Label 2) :=
  [.begin 0, .begin 1, .readToken 0, .readToken 1, .checkToken 0,
    .checkToken 1, .rotate 1, .rotate 0, .readRole 1, .signAccess 1,
    .signRefresh 1 "second", .revokeFamily 0, .insertToken 1]

theorem refresh_token_spent_once_racing :
    ∃ final,
      (machine oneToken ⟨900000, 604800000⟩
          fun _ => .refresh "refresh first").run oneSession
            racingRefreshes = some final ∧
        Succeeded final 1 ∧
        ∀ other, Succeeded final other → other = 1 := by
  have initial : Initial oneSession :=
    ⟨fun _ => rfl, by decide, by decide, rfl⟩
  obtain ⟨final, reached⟩ :
      ∃ final, (machine oneToken ⟨900000, 604800000⟩
        fun _ => .refresh "refresh first").run oneSession
          racingRefreshes = some final :=
    ⟨_, rfl⟩
  have succeeded : Succeeded final 1 := by
    cases reached
    exact ⟨_, rfl⟩
  refine ⟨final, reached, succeeded, fun other otherSucceeded => ?_⟩
  exact (refresh_token_spent_once oneToken ⟨900000, 604800000⟩
    (fun _ => .refresh "refresh first") initial reached).1 other 1
      "refresh first" rfl rfl otherSucceeded succeeded

end WeatherNotify.Auth
