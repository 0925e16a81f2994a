import WeatherNotify.Common.Expiring
import WeatherNotify.Transition.Machine

/-!
# Reading through a cache

A caller looks a query up under its key, asks an upstream when it finds
nothing there, and leaves a copy of the answer for the next caller.  Any number
of calls are under way at once.  Every command to the store may fail, and a
write that was given up on may reach the store later all the same.  The store
may drop a copy at any time, and keys that no query has belong to others.
-/

namespace WeatherNotify.Caching

open WeatherNotify.Common
open WeatherNotify.Transition

variable {Id Query Key Response Value : Type*}

/-- An upstream behind a cache. -/
structure Source (Query Key Response Value : Type*) where
  key : Query → Key
  /-- How long a copy is to be kept; `none` when the store refuses the wish. -/
  lifetime : Query → Option Int
  /-- How many times a request that failed is repeated. -/
  repeats : Query → Nat
  interpret : Query → Response → Option Value
  /-- Whether a reader takes what it finds for a copy. -/
  usable : Value → Bool
  /-- What a caller is given when there is no answer. -/
  fallback : Query → Option Value

inductive Phase (Query Value : Type*) where
  | idle
  | looking (query : Query)
  | asking (query : Query) (repeats : Nat)
  | saving (query : Query) (value : Value) (stored : Bool)
  | returned (query : Query) (value : Value)
  | rejected (query : Query)
  deriving DecidableEq, Repr

/-- No call is under way. -/
def Phase.settled : Phase Query Value → Bool
  | .idle | .returned _ _ | .rejected _ => true
  | .looking _ | .asking _ _ | .saving _ _ _ => false

structure State (Id Query Key Value : Type*) where
  now : Int
  store : Expiring Key Value
  calls : Id → Phase Query Value
  /-- Writes nobody waits for any more. -/
  adrift : List (Query × Value)

inductive Label (source : Source Query Key Response Value) (Id : Type*) where
  | tick (elapsed : Nat)
  | call (id : Id) (query : Query)
  | look (id : Id)
  | lookFails (id : Id)
  | respond (id : Id) (response : Option Response)
  | write (id : Id)
  | saved (id : Id)
  | saveFails (id : Id)
  | land (index : Nat)
  | evict (key : Key)
  | foreign (key : { key : Key // ∀ query, source.key query ≠ key })
      (entry : Option (Entry Value))

inductive Event (Id Query Response Value : Type*) where
  | hit (id : Id) (query : Query) (value : Value) (time : Int)
  | missed (id : Id) (query : Query) (time : Int)
  | fetched (id : Id) (query : Query) (response : Response) (time : Int)
  | gaveUp (id : Id) (query : Query) (time : Int)
  | written (query : Query) (value : Value) (time : Int)
  deriving DecidableEq, Repr

def Event.time : Event Id Query Response Value → Int
  | .hit _ _ _ time | .missed _ _ time | .fetched _ _ _ time
  | .gaveUp _ _ time | .written _ _ time => time

def State.start (Id Query Key Value : Type*) (now : Int) :
    State Id Query Key Value where
  now := now
  store := .empty
  calls := fun _ => .idle
  adrift := []

def State.moveTo [DecidableEq Id] (state : State Id Query Key Value) (id : Id)
    (phase : Phase Query Value) : State Id Query Key Value :=
  { state with calls := Function.update state.calls id phase }

@[simp]
theorem State.moveTo_self [DecidableEq Id] (state : State Id Query Key Value)
    (id : Id) (phase : Phase Query Value) :
    (state.moveTo id phase).calls id = phase :=
  Function.update_self _ _ _

theorem State.moveTo_of_ne [DecidableEq Id] (state : State Id Query Key Value)
    {id other : Id} (phase : Phase Query Value) (different : other ≠ id) :
    (state.moveTo id phase).calls other = state.calls other :=
  Function.update_of_ne different _ _

namespace Source

variable (source : Source Query Key Response Value)

/-- What a reader finds under the key of its query. -/
def copy [DecidableEq Key] (state : State Id Query Key Value)
    (query : Query) : Option Value :=
  (state.store.get state.now (source.key query)).filter source.usable

/-- How a call ends that got no answer. -/
def gaveUp (query : Query) : Phase Query Value :=
  match source.fallback query with
  | some value => .returned query value
  | none => .rejected query

/-- A write reaches the store. -/
def written [DecidableEq Key] (state : State Id Query Key Value)
    (query : Query) (value : Value) :
    Option (State Id Query Key Value ×
      List (Event Id Query Response Value)) :=
  (source.lifetime query).map fun lifetime =>
    ({ state with
        store := state.store.put (source.key query)
          ⟨value, state.now + lifetime⟩ },
      [.written query value state.now])

variable [DecidableEq Id]

/-- The upstream has answered, or the request has failed. -/
def answered (state : State Id Query Key Value) (id : Id) (query : Query) :
    Nat → Option Response →
      State Id Query Key Value × List (Event Id Query Response Value)
  | repeats + 1, none => (state.moveTo id (.asking query repeats), [])
  | 0, none =>
      (state.moveTo id (source.gaveUp query), [.gaveUp id query state.now])
  | _, some response =>
      match source.interpret query response with
      | some value =>
          (state.moveTo id (.saving query value false),
            [.fetched id query response state.now])
      | none =>
          (state.moveTo id (source.gaveUp query),
            [.gaveUp id query state.now])

variable [DecidableEq Key]

def advance (state : State Id Query Key Value) :
    Label source Id → Option (State Id Query Key Value ×
      List (Event Id Query Response Value))
  | .tick elapsed => some ({ state with now := state.now + elapsed }, [])
  | .call id query =>
      if (state.calls id).settled then
        some (state.moveTo id (.looking query), [])
      else none
  | .look id =>
      match state.calls id with
      | .looking query =>
          match source.copy state query with
          | some value =>
              some (state.moveTo id (.returned query value),
                [.hit id query value state.now])
          | none =>
              some (state.moveTo id (.asking query (source.repeats query)),
                [.missed id query state.now])
      | _ => none
  | .lookFails id =>
      match state.calls id with
      | .looking query => some (state.moveTo id (.rejected query), [])
      | _ => none
  | .respond id response =>
      match state.calls id with
      | .asking query repeats =>
          some (source.answered state id query repeats response)
      | _ => none
  | .write id =>
      match state.calls id with
      | .saving query value false =>
          source.written (state.moveTo id (.saving query value true)) query
            value
      | _ => none
  | .saved id =>
      match state.calls id with
      | .saving query value true =>
          some (state.moveTo id (.returned query value), [])
      | _ => none
  | .saveFails id =>
      match state.calls id with
      | .saving query value stored =>
          some ({ state.moveTo id (.rejected query) with
            adrift := if stored then state.adrift
              else (query, value) :: state.adrift }, [])
      | _ => none
  | .land index =>
      match state.adrift[index]? with
      | some write =>
          source.written { state with adrift := state.adrift.eraseIdx index }
            write.1 write.2
      | none => none
  | .evict key => some ({ state with store := state.store.delete key }, [])
  | .foreign key entry =>
      some ({ state with store := Function.update state.store key entry }, [])

variable (Id) in
def machine : Machine (State Id Query Key Value) (Label source Id) where
  step state label := (source.advance state label).map Prod.fst

/-- What a step puts on record. -/
def record (taken : Taken (State Id Query Key Value) (Label source Id)) :
    List (Event Id Query Response Value) :=
  match source.advance taken.source taken.label with
  | some (_, recorded) => recorded
  | none => []

end Source

/-! ## What a step can do -/

section Steps

variable {source : Source Query Key Response Value}
variable [DecidableEq Id] [DecidableEq Key]

/-- The steps of a state, each with what it puts on record. -/
inductive Stepped (state : State Id Query Key Value) :
    Label source Id → State Id Query Key Value →
      List (Event Id Query Response Value) → Prop
  | tick (elapsed : Nat) :
      Stepped state (.tick elapsed)
        { state with now := state.now + elapsed } []
  | call {id : Id} (query : Query)
      (settled : (state.calls id).settled = true) :
      Stepped state (.call id query) (state.moveTo id (.looking query)) []
  | hit {id : Id} {query : Query} {value : Value}
      (looking : state.calls id = .looking query)
      (found : source.copy state query = some value) :
      Stepped state (.look id) (state.moveTo id (.returned query value))
        [.hit id query value state.now]
  | missed {id : Id} {query : Query}
      (looking : state.calls id = .looking query)
      (absent : source.copy state query = none) :
      Stepped state (.look id)
        (state.moveTo id (.asking query (source.repeats query)))
        [.missed id query state.now]
  | lookFails {id : Id} {query : Query}
      (looking : state.calls id = .looking query) :
      Stepped state (.lookFails id) (state.moveTo id (.rejected query)) []
  | repeated {id : Id} {query : Query} {repeats : Nat}
      (asking : state.calls id = .asking query (repeats + 1)) :
      Stepped state (.respond id none)
        (state.moveTo id (.asking query repeats)) []
  | fetched {id : Id} {query : Query} {repeats : Nat} {response : Response}
      {value : Value} (asking : state.calls id = .asking query repeats)
      (read : source.interpret query response = some value) :
      Stepped state (.respond id (some response))
        (state.moveTo id (.saving query value false))
        [.fetched id query response state.now]
  | gaveUp {id : Id} {query : Query} {repeats : Nat}
      {response : Option Response}
      (asking : state.calls id = .asking query repeats)
      (nothing : response.bind (source.interpret query) = none) :
      Stepped state (.respond id response)
        (state.moveTo id (source.gaveUp query))
        [.gaveUp id query state.now]
  | write {id : Id} {query : Query} {value : Value} {lifetime : Int}
      (saving : state.calls id = .saving query value false)
      (kept : source.lifetime query = some lifetime) :
      Stepped state (.write id)
        { state.moveTo id (.saving query value true) with
          store := state.store.put (source.key query)
            ⟨value, state.now + lifetime⟩ }
        [.written query value state.now]
  | saved {id : Id} {query : Query} {value : Value}
      (saving : state.calls id = .saving query value true) :
      Stepped state (.saved id) (state.moveTo id (.returned query value)) []
  | saveFails {id : Id} {query : Query} {value : Value} {stored : Bool}
      (saving : state.calls id = .saving query value stored) :
      Stepped state (.saveFails id)
        { state.moveTo id (.rejected query) with
          adrift := if stored then state.adrift
            else (query, value) :: state.adrift } []
  | land {index : Nat} {query : Query} {value : Value} {lifetime : Int}
      (drifting : state.adrift[index]? = some (query, value))
      (kept : source.lifetime query = some lifetime) :
      Stepped state (.land index)
        { state with
          adrift := state.adrift.eraseIdx index
          store := state.store.put (source.key query)
            ⟨value, state.now + lifetime⟩ }
        [.written query value state.now]
  | evict (key : Key) :
      Stepped state (.evict key)
        { state with store := state.store.delete key } []
  | foreign (key : { key : Key // ∀ query, source.key query ≠ key })
      (entry : Option (Entry Value)) :
      Stepped state (.foreign key entry)
        { state with store := Function.update state.store key entry } []

theorem stepped_of_advance {state target : State Id Query Key Value}
    {label : Label source Id} {recorded : List (Event Id Query Response Value)}
    (advanced : source.advance state label = some (target, recorded)) :
    Stepped state label target recorded := by
  cases label with
  | tick elapsed =>
      cases advanced
      exact .tick elapsed
  | call id query =>
      obtain ⟨settled, same⟩ :=
        Option.ite_none_right_eq_some.mp advanced
      cases same
      exact .call query settled
  | look id =>
      simp only [Source.advance] at advanced
      split at advanced
      case h_2 => cases advanced
      case h_1 query looking =>
        split at advanced <;> cases advanced
        · exact .hit looking ‹_›
        · exact .missed looking ‹_›
  | lookFails id =>
      simp only [Source.advance] at advanced
      split at advanced
      case h_2 => cases advanced
      case h_1 query looking =>
        cases advanced
        exact .lookFails looking
  | respond id response =>
      simp only [Source.advance] at advanced
      split at advanced
      case h_2 => cases advanced
      case h_1 query repeats asking =>
        unfold Source.answered at advanced
        split at advanced
        case h_1 =>
          cases advanced
          exact .repeated asking
        case h_2 =>
          cases advanced
          exact .gaveUp asking rfl
        case h_3 response =>
          split at advanced <;> cases advanced
          · exact .fetched asking ‹_›
          · exact .gaveUp asking ‹_›
  | write id =>
      simp only [Source.advance] at advanced
      split at advanced
      case h_2 => cases advanced
      case h_1 query value saving =>
        obtain ⟨lifetime, kept, same⟩ := Option.map_eq_some_iff.mp advanced
        cases same
        exact .write saving kept
  | saved id =>
      simp only [Source.advance] at advanced
      split at advanced
      case h_2 => cases advanced
      case h_1 query value saving =>
        cases advanced
        exact .saved saving
  | saveFails id =>
      simp only [Source.advance] at advanced
      split at advanced
      case h_2 => cases advanced
      case h_1 query value stored saving =>
        cases advanced
        exact .saveFails saving
  | land index =>
      simp only [Source.advance] at advanced
      split at advanced
      case h_2 => cases advanced
      case h_1 write drifting =>
        obtain ⟨lifetime, kept, same⟩ := Option.map_eq_some_iff.mp advanced
        cases same
        exact .land drifting kept
  | evict key =>
      cases advanced
      exact .evict key
  | foreign key entry =>
      cases advanced
      exact .foreign key entry

theorem stepped_of_step
    (taken : Taken (State Id Query Key Value) (Label source Id))
    (stepped : (source.machine Id).step taken.source taken.label =
      some taken.target) :
    Stepped taken.source taken.label taken.target (source.record taken) := by
  obtain ⟨⟨target, recorded⟩, advanced, same⟩ :=
    Option.map_eq_some_iff.mp stepped
  cases same
  rw [Source.record, advanced]
  exact stepped_of_advance advanced

/-- What every step carries on holds of the record of a whole run. -/
theorem recorded_of_run
    (Inv : List (Event Id Query Response Value) →
      State Id Query Key Value → Prop)
    {guard : Label source Id → Prop}
    (preserved : ∀ {state target : State Id Query Key Value}
      {label : Label source Id}
      {recorded events : List (Event Id Query Response Value)},
      Stepped state label target recorded → guard label → Inv events state →
        Inv (events ++ recorded) target)
    {state final : State Id Query Key Value}
    {labels : List (Label source Id)} (initial : Inv [] state)
    (guarded : ∀ label ∈ labels, guard label)
    (reached : (source.machine Id).run state labels = some final) :
    Inv ((source.machine Id).history source.record state labels) final := by
  have met : ∀ taken ∈ (source.machine Id).transitions state labels,
      guard taken.label :=
    fun taken member =>
      guarded _ (Machine.label_mem_of_mem_transitions _ member)
  have carried := Machine.history_invariant Inv
    (fun taken _ stepped allowed =>
      preserved (stepped_of_step taken stepped) allowed)
    initial met reached
  exact carried

end Steps

/-! ## Where answers come from -/

section Origin

variable (source : Source Query Key Response Value)

/-- The call has the value from its own request. -/
def Fetched (events : List (Event Id Query Response Value)) (id : Id)
    (query : Query) (value : Value) (limit : Int) : Prop :=
  ∃ response time, .fetched id query response time ∈ events ∧
    source.interpret query response = some value ∧ time ≤ limit

/-- The value is a copy, still to be kept, that a query of the same key left. -/
def Copied (events : List (Event Id Query Response Value)) (query : Query)
    (value : Value) (now : Int) : Prop :=
  ∃ origin lifetime time, .written origin value time ∈ events ∧
    source.key origin = source.key query ∧
    source.lifetime origin = some lifetime ∧
    time ≤ now ∧ now < time + lifetime

/-- How a call comes to return a value. -/
inductive Answered (events : List (Event Id Query Response Value)) (id : Id)
    (query : Query) (value : Value) : Prop
  | fetched {limit : Int} (own : Fetched source events id query value limit)
  | copied {time : Int} (hit : .hit id query value time ∈ events)
      (copied : Copied source events query value time)
  | fallback {time : Int} (gaveUp : .gaveUp id query time ∈ events)
      (chosen : source.fallback query = some value)

/-- What a call has behind it. -/
def Earned (events : List (Event Id Query Response Value)) (id : Id) :
    Phase Query Value → Prop
  | .saving query value _ =>
      ∃ limit, Fetched source events id query value limit
  | .returned query value => Answered source events id query value
  | .idle | .looking _ | .asking _ _ | .rejected _ => True

/-- An entry under the key of a query is a copy that was written. -/
def Kept (events : List (Event Id Query Response Value)) (query : Query)
    (entry : Entry Value) : Prop :=
  ∃ origin lifetime time, .written origin entry.value time ∈ events ∧
    source.key origin = source.key query ∧
    source.lifetime origin = some lifetime ∧
    entry.deadline = time + lifetime

variable {source}
variable {events more : List (Event Id Query Response Value)}

theorem Fetched.mono {id : Id} {query : Query} {value : Value} {limit : Int}
    (subset : events ⊆ more)
    (own : Fetched source events id query value limit) :
    Fetched source more id query value limit := by
  obtain ⟨response, time, member, rest⟩ := own
  exact ⟨response, time, subset member, rest⟩

theorem Copied.mono {query : Query} {value : Value} {now : Int}
    (subset : events ⊆ more) (copied : Copied source events query value now) :
    Copied source more query value now := by
  obtain ⟨origin, lifetime, time, member, rest⟩ := copied
  exact ⟨origin, lifetime, time, subset member, rest⟩

theorem Answered.mono {id : Id} {query : Query} {value : Value}
    (subset : events ⊆ more)
    (answered : Answered source events id query value) :
    Answered source more id query value := by
  cases answered with
  | fetched own => exact .fetched (own.mono subset)
  | copied hit copied => exact .copied (subset hit) (copied.mono subset)
  | fallback gaveUp chosen => exact .fallback (subset gaveUp) chosen

theorem Earned.mono {id : Id} {phase : Phase Query Value}
    (subset : events ⊆ more) (earned : Earned source events id phase) :
    Earned source more id phase := by
  cases phase with
  | saving query value stored =>
      obtain ⟨limit, own⟩ := earned
      exact ⟨limit, own.mono subset⟩
  | returned query value => exact Answered.mono subset earned
  | idle | looking | asking | rejected => trivial

theorem Kept.mono {query : Query} {entry : Entry Value}
    (subset : events ⊆ more) (kept : Kept source events query entry) :
    Kept source more query entry := by
  obtain ⟨origin, lifetime, time, member, rest⟩ := kept
  exact ⟨origin, lifetime, time, subset member, rest⟩

end Origin

/-! ## Whole runs -/

section Runs

variable (source : Source Query Key Response Value)

/-- The record bears out every copy, every call and every write. -/
structure Sound (events : List (Event Id Query Response Value))
    (state : State Id Query Key Value) : Prop where
  past : ∀ event ∈ events, event.time ≤ state.now
  earned : ∀ id, Earned source events id (state.calls id)
  adrift : ∀ write ∈ state.adrift, ∃ id limit,
    Fetched source events id write.1 write.2 limit
  written : ∀ {query : Query} {value : Value} {time : Int},
    .written query value time ∈ events →
      ∃ id lifetime, source.lifetime query = some lifetime ∧
        Fetched source events id query value time
  copies : ∀ {query : Query} {entry : Entry Value},
    state.store (source.key query) = some entry →
      Kept source events query entry

variable {source}
variable {events recorded : List (Event Id Query Response Value)}
variable {state : State Id Query Key Value}

/-- Copies and drifting writes stay borne out by a longer record. -/
theorem Sound.extend [DecidableEq Id] (sound : Sound source events state)
    {id : Id} {phase : Phase Query Value}
    (times : ∀ event ∈ recorded, event.time = state.now)
    (writes : ∀ {query : Query} {value : Value} {time : Int},
      .written query value time ∉ recorded)
    (earned : Earned source (events ++ recorded) id phase) :
    Sound source (events ++ recorded) (state.moveTo id phase) where
  past := by
    intro event member
    rcases List.mem_append.mp member with old | new
    · exact sound.past event old
    · exact Int.le_of_eq (times event new)
  earned := by
    intro other
    by_cases same : other = id
    · subst same
      rw [State.moveTo_self]
      exact earned
    · rw [State.moveTo_of_ne _ _ same]
      exact (sound.earned other).mono (List.subset_append_left _ _)
  adrift := by
    intro write member
    obtain ⟨other, limit, own⟩ := sound.adrift write member
    exact ⟨other, limit, own.mono (List.subset_append_left _ _)⟩
  written := by
    intro query value time member
    obtain ⟨other, lifetime, kept, own⟩ :=
      sound.written ((List.mem_append.mp member).resolve_right writes)
    exact ⟨other, lifetime, kept, own.mono (List.subset_append_left _ _)⟩
  copies := fun stored =>
    (sound.copies stored).mono (List.subset_append_left _ _)

/-- A call that moves on without a record. -/
theorem Sound.moved [DecidableEq Id] (sound : Sound source events state)
    {id : Id} {phase : Phase Query Value}
    (earned : Earned source events id phase) :
    Sound source (events ++ []) (state.moveTo id phase) := by
  apply sound.extend
  · exact fun event member => (List.not_mem_nil member).elim
  · exact fun member => (List.not_mem_nil member).elim
  · rwa [List.append_nil]

/-- What an answer was fetched for holds at the instant it is written. -/
theorem Sound.fetched_now (sound : Sound source events state) {id : Id}
    {query : Query} {value : Value} {limit : Int}
    (own : Fetched source events id query value limit) :
    Fetched source events id query value state.now := by
  obtain ⟨response, time, member, read, -⟩ := own
  exact ⟨response, time, member, read, sound.past _ member⟩

variable [DecidableEq Key]

/-- A fetched answer reaches the store. -/
theorem Sound.put (sound : Sound source events state) {id : Id}
    {query : Query} {value : Value} {lifetime limit : Int}
    (own : Fetched source events id query value limit)
    (kept : source.lifetime query = some lifetime) :
    Sound source (events ++ [.written query value state.now])
      { state with
        store := state.store.put (source.key query)
          ⟨value, state.now + lifetime⟩ } where
  past := by
    intro event member
    rcases List.mem_append.mp member with old | new
    · exact sound.past event old
    · rw [List.mem_singleton.mp new]
      exact Int.le_refl state.now
  earned := fun other =>
    (sound.earned other).mono (List.subset_append_left _ _)
  adrift := by
    intro write member
    obtain ⟨other, limit, own⟩ := sound.adrift write member
    exact ⟨other, limit, own.mono (List.subset_append_left _ _)⟩
  written := by
    intro other fetched time member
    rcases List.mem_append.mp member with old | new
    · obtain ⟨writer, lasting, keeps, own⟩ := sound.written old
      exact ⟨writer, lasting, keeps, own.mono (List.subset_append_left _ _)⟩
    · cases List.mem_singleton.mp new
      exact ⟨id, lifetime, kept,
        (sound.fetched_now own).mono (List.subset_append_left _ _)⟩
  copies := by
    intro other entry stored
    by_cases same : source.key other = source.key query
    · simp only [same, Expiring.put_self, Option.some.injEq] at stored
      subst stored
      refine ⟨query, lifetime, state.now, ?_, same.symm, kept, rfl⟩
      exact List.mem_append_right _ List.mem_cons_self
    · simp only [Expiring.put_of_ne _ same] at stored
      exact (sound.copies stored).mono (List.subset_append_left _ _)

/-- What a reader finds is a copy that is still to be kept. -/
theorem Sound.copied (sound : Sound source events state) {query : Query}
    {value : Value} (found : source.copy state query = some value) :
    Copied source events query value state.now := by
  obtain ⟨stored, -⟩ := Option.filter_eq_some_iff.mp found
  obtain ⟨deadline, held, early⟩ := Entry.read_eq_some_iff.mp stored
  obtain ⟨origin, lifetime, time, member, same, kept, ends⟩ :=
    sound.copies held
  refine ⟨origin, lifetime, time, member, same, kept, ?_, ?_⟩
  · exact sound.past _ member
  · rw [← ends]
    exact early

variable [DecidableEq Id] {target : State Id Query Key Value}
variable {label : Label source Id}

theorem sound_step (stepped : Stepped state label target recorded)
    (sound : Sound source events state) :
    Sound source (events ++ recorded) target := by
  cases stepped with
  | tick elapsed =>
      rw [List.append_nil]
      refine ⟨fun event member => ?_, sound.earned, sound.adrift,
        sound.written, sound.copies⟩
      have before := sound.past event member
      show event.time ≤ state.now + elapsed
      omega
  | call query settled => exact sound.moved trivial
  | hit looking found =>
      apply sound.extend
      · exact fun event member => by rw [List.mem_singleton.mp member]; rfl
      · exact fun member => nomatch List.mem_singleton.mp member
      · apply Answered.copied
        · exact List.mem_append_right _ List.mem_cons_self
        · exact (sound.copied found).mono (List.subset_append_left _ _)
  | missed looking absent =>
      apply sound.extend
      · exact fun event member => by rw [List.mem_singleton.mp member]; rfl
      · exact fun member => nomatch List.mem_singleton.mp member
      · trivial
  | lookFails looking => exact sound.moved trivial
  | repeated asking => exact sound.moved trivial
  | @fetched id query repeats response value asking read =>
      apply sound.extend
      · exact fun event member => by rw [List.mem_singleton.mp member]; rfl
      · exact fun member => nomatch List.mem_singleton.mp member
      · refine ⟨state.now, response, state.now, ?_, read, Int.le_refl _⟩
        exact List.mem_append_right _ List.mem_cons_self
  | @gaveUp id query repeats response asking nothing =>
      apply sound.extend
      · exact fun event member => by rw [List.mem_singleton.mp member]; rfl
      · exact fun member => nomatch List.mem_singleton.mp member
      · unfold Source.gaveUp
        split
        case h_1 value chosen =>
          have last : Event.gaveUp id query state.now ∈
              events ++ [.gaveUp id query state.now] :=
            List.mem_append_right _ List.mem_cons_self
          exact Answered.fallback last chosen
        case h_2 => trivial
  | @write id query value lifetime saving kept =>
      have behind := sound.earned id
      rw [saving] at behind
      obtain ⟨limit, own⟩ := behind
      have moved : Sound source events
          (state.moveTo id (.saving query value true)) := by
        rw [← List.append_nil events]
        exact sound.moved ⟨limit, own⟩
      exact moved.put own kept
  | @saved id query value saving =>
      have behind := sound.earned id
      rw [saving] at behind
      obtain ⟨limit, own⟩ := behind
      exact sound.moved (.fetched own)
  | @saveFails id query value stored saving =>
      have behind := sound.earned id
      rw [saving] at behind
      obtain ⟨limit, own⟩ := behind
      have moved : Sound source (events ++ [])
          (state.moveTo id (.rejected query)) :=
        sound.moved trivial
      refine ⟨moved.past, moved.earned, fun write member => ?_,
        moved.written, moved.copies⟩
      rw [List.append_nil]
      cases stored with
      | true => exact sound.adrift write member
      | false =>
          rcases List.mem_cons.mp member with first | old
          · rw [first]
            exact ⟨id, limit, own⟩
          · exact sound.adrift write old
  | @land index query value lifetime drifting kept =>
      obtain ⟨id, limit, own⟩ :=
        sound.adrift _ (List.mem_of_getElem? drifting)
      have left : Sound source events
          { state with adrift := state.adrift.eraseIdx index } :=
        ⟨sound.past, sound.earned,
          fun write member => sound.adrift write
            (List.mem_of_mem_eraseIdx member),
          sound.written, sound.copies⟩
      exact left.put own kept
  | evict key =>
      rw [List.append_nil]
      refine ⟨sound.past, sound.earned, sound.adrift, sound.written, ?_⟩
      intro query entry stored
      by_cases same : source.key query = key
      · simp only [same, Expiring.delete_self, reduceCtorEq] at stored
      · simp only [Expiring.delete_of_ne _ same] at stored
        exact sound.copies stored
  | foreign key entry =>
      rw [List.append_nil]
      refine ⟨sound.past, sound.earned, sound.adrift, sound.written, ?_⟩
      intro query held stored
      have untouched : Function.update state.store key.val entry
          (source.key query) = state.store (source.key query) :=
        Function.update_of_ne (key.property query) _ _
      exact sound.copies (untouched.symm.trans stored)

omit [DecidableEq Key] [DecidableEq Id] in
theorem sound_start (now : Int) :
    Sound source [] (.start Id Query Key Value now) := by
  refine ⟨?_, fun _ => trivial, ?_, ?_, ?_⟩
  · exact fun event member => (List.not_mem_nil member).elim
  · exact fun write member => (List.not_mem_nil member).elim
  · exact fun member => (List.not_mem_nil member).elim
  · exact fun stored => nomatch stored

theorem sound_of_run {now : Int} {final : State Id Query Key Value}
    {labels : List (Label source Id)}
    (reached : (source.machine Id).run (.start Id Query Key Value now) labels =
      some final) :
    Sound source ((source.machine Id).history source.record
      (.start Id Query Key Value now) labels) final := by
  apply recorded_of_run (Sound source)
    (fun stepped (_ : True) sound => sound_step stepped sound)
    (sound_start now) (fun _ _ => trivial) reached

/-! ## When a caller finds a copy -/

variable (source) in
/-- Some copy left under the key of a query is still to be kept. -/
def Current (events : List (Event Id Query Response Value)) (query : Query)
    (now : Int) : Prop :=
  ∃ origin value lifetime time, .written origin value time ∈ events ∧
    source.key origin = source.key query ∧
    source.lifetime origin = some lifetime ∧ now < time + lifetime

variable (source) in
/-- The latest copy outlives every other one. -/
def Held (query : Query) (events : List (Event Id Query Response Value))
    (state : State Id Query Key Value) : Prop :=
  ∀ (origin : Query) (value : Value) (lifetime time : Int),
    .written origin value time ∈ events →
      source.key origin = source.key query →
      source.lifetime origin = some lifetime →
        ∃ entry, state.store (source.key query) = some entry ∧
          time + lifetime ≤ entry.deadline

variable (source) in
/-- How long a copy is kept depends on its key alone. -/
def Uniform : Prop :=
  ∀ {query other : Query}, source.key query = source.key other →
    source.lifetime query = source.lifetime other

omit [DecidableEq Key] [DecidableEq Id] in
/-- A record that tells of no write and a store that keeps the key. -/
theorem Held.unchanged {next : State Id Query Key Value} {query : Query}
    (held : Held source query events state)
    (writes : ∀ {query : Query} {value : Value} {time : Int},
      .written query value time ∉ recorded)
    (same : next.store (source.key query) =
      state.store (source.key query)) :
    Held source query (events ++ recorded) next := by
  intro origin value lifetime time member sameKey kept
  rw [same]
  exact held _ _ _ _ ((List.mem_append.mp member).resolve_right writes) sameKey kept

omit [DecidableEq Id] in
theorem Held.put (uniform : Uniform source)
    (past : ∀ event ∈ events, event.time ≤ state.now) {query written : Query}
    {value : Value} {lifetime : Int} (held : Held source query events state)
    (kept : source.lifetime written = some lifetime)
    {next : State Id Query Key Value}
    (stored : next.store = state.store.put (source.key written)
      ⟨value, state.now + lifetime⟩) :
    Held source query (events ++ [.written written value state.now])
      next := by
  intro origin other duration time member sameKey keptOther
  by_cases same : source.key query = source.key written
  · refine ⟨⟨value, state.now + lifetime⟩, ?_, ?_⟩
    · rw [stored, same, Expiring.put_self]
    · have equal : duration = lifetime := by
        have durations := uniform (sameKey.trans same)
        rw [keptOther, kept] at durations
        exact Option.some.inj durations
      rw [equal]
      rcases List.mem_append.mp member with old | new
      · exact Int.add_le_add_right (past _ old) _
      · cases List.mem_singleton.mp new
        exact Int.le_refl _
  · have old : .written origin other time ∈ events := by
      rcases List.mem_append.mp member with old | new
      · exact old
      · cases List.mem_singleton.mp new
        exact absurd sameKey.symm same
    obtain ⟨entry, found, later⟩ := held _ _ _ _ old sameKey keptOther
    refine ⟨entry, ?_, later⟩
    rw [stored, Expiring.put_of_ne _ same]
    exact found

theorem held_step (uniform : Uniform source) {query : Query}
    (stepped : Stepped state label target recorded)
    (unevicted : label ≠ .evict (source.key query))
    (past : ∀ event ∈ events, event.time ≤ state.now)
    (held : Held source query events state) :
    Held source query (events ++ recorded) target := by
  cases stepped with
  | write saving kept => exact held.put uniform past kept rfl
  | land drifting kept => exact held.put uniform past kept rfl
  | evict key =>
      apply held.unchanged
      · exact fun member => (List.not_mem_nil member).elim
      · apply Expiring.delete_of_ne
        exact fun same => unevicted (by rw [same])
  | foreign key entry =>
      apply held.unchanged
      · exact fun member => (List.not_mem_nil member).elim
      · exact Function.update_of_ne (key.property query) _ _
  | hit | missed | fetched | gaveUp =>
      apply held.unchanged
      · exact fun member => nomatch List.mem_singleton.mp member
      · rfl
  | tick | call | lookFails | repeated | saved | saveFails =>
      apply held.unchanged
      · exact fun member => (List.not_mem_nil member).elim
      · rfl

theorem held_of_run (uniform : Uniform source) {now : Int} {query : Query}
    {final : State Id Query Key Value} {labels : List (Label source Id)}
    (unevicted : .evict (source.key query) ∉ labels)
    (reached : (source.machine Id).run (.start Id Query Key Value now) labels =
      some final) :
    Held source query ((source.machine Id).history source.record
      (.start Id Query Key Value now) labels) final := by
  have guarded : ∀ label ∈ labels, label ≠ .evict (source.key query) :=
    fun label member same => unevicted (same ▸ member)
  refine (recorded_of_run
    (fun events state =>
      Sound source events state ∧ Held source query events state)
    ?_ ?_ guarded reached).2
  · rintro _ _ _ _ _ stepped allowed ⟨sound, held⟩
    exact ⟨sound_step stepped sound,
      held_step uniform stepped allowed sound.past held⟩
  · refine ⟨sound_start now, ?_⟩
    exact fun _ _ _ _ member => (List.not_mem_nil member).elim

/--
A caller finds a copy exactly when one was left under its key that is still to
be kept, as long as the store drops none.
-/
theorem found_iff_of_run (uniform : Uniform source)
    (useful : ∀ {query : Query} {response : Response} {value : Value},
      source.interpret query response = some value →
        source.usable value = true)
    {now : Int} {query : Query} {final : State Id Query Key Value}
    {labels : List (Label source Id)}
    (unevicted : .evict (source.key query) ∉ labels)
    (reached : (source.machine Id).run (.start Id Query Key Value now) labels =
      some final) :
    (∃ value, source.copy final query = some value) ↔
      Current source ((source.machine Id).history source.record
        (.start Id Query Key Value now) labels) query final.now := by
  have sound := sound_of_run reached
  constructor
  · rintro ⟨value, found⟩
    obtain ⟨origin, lifetime, time, member, same, kept, -, early⟩ :=
      sound.copied found
    exact ⟨origin, value, lifetime, time, member, same, kept, early⟩
  · rintro ⟨origin, value, lifetime, time, member, same, kept, early⟩
    obtain ⟨entry, stored, later⟩ :=
      held_of_run uniform unevicted reached _ _ _ _ member same kept
    obtain ⟨writer, _, _, written, -⟩ := sound.copies stored
    obtain ⟨id, _, -, response, _, -, read, -⟩ := sound.written written
    refine ⟨entry.value, Option.filter_eq_some_iff.mpr ⟨?_, useful read⟩⟩
    exact Entry.read_eq_some_iff.mpr ⟨entry.deadline, stored, by omega⟩

end Runs

end WeatherNotify.Caching
