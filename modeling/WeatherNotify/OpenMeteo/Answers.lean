import WeatherNotify.OpenMeteo.Services

/-!
# Where the answers of the services come from

Whatever requests of the three services are under way at once, whichever of
their commands fail or arrive late, an answer is what the upstream sent to that
request, or a copy that a request of the same service with the same key left
less than its time to live ago, or the empty list of a broken search.
-/

namespace WeatherNotify.OpenMeteo

open WeatherNotify.Caching
open WeatherNotify.Domain
open WeatherNotify.Js
open WeatherNotify.Js.Value
open WeatherNotify.Transition

variable {Id : Type*} {services : Services}

/-! ## Entries -/

theorem key_eq_iff {query other : Query} :
    services.source.key query = services.source.key other ↔
      SameEntry services query other := by
  constructor
  · intro same
    have heads := congrArg leading same
    cases query with
    | snapshot place =>
        cases other with
        | snapshot other => exact printedKey_eq_iff.mp same
        | forecast other =>
            exact absurd ((leading_cacheKey place).symm.trans
              (heads.trans (leading_forecastKey other))) (by decide)
        | search query =>
            exact absurd ((leading_cacheKey place).symm.trans
              (heads.trans (leading_geocodeKey query))) (by decide)
    | forecast place =>
        cases other with
        | snapshot other =>
            exact absurd ((leading_forecastKey place).symm.trans
              (heads.trans (leading_cacheKey other))) (by decide)
        | forecast other => exact printedKey_eq_iff.mp same
        | search query =>
            exact absurd ((leading_forecastKey place).symm.trans
              (heads.trans (leading_geocodeKey query))) (by decide)
    | search text =>
        cases other with
        | snapshot other =>
            exact absurd ((leading_geocodeKey text).symm.trans
              (heads.trans (leading_cacheKey other))) (by decide)
        | forecast other =>
            exact absurd ((leading_geocodeKey text).symm.trans
              (heads.trans (leading_forecastKey other))) (by decide)
        | search query =>
            have letters := congrArg String.toList same
            simp only [Services.source, Services.key, Services.geocodeKey,
              String.toList_append, List.append_cancel_left_eq] at letters
            exact String.toList_inj.mp letters
  · intro same
    cases query <;> cases other <;> try exact same.elim
    case snapshot.snapshot => exact printedKey_eq_iff.mpr same
    case forecast.forecast => exact printedKey_eq_iff.mpr same
    case search.search text query =>
      have digests : services.sha256 (services.normalised text) =
          services.sha256 (services.normalised query) :=
        same
      show services.geocodeKey text = services.geocodeKey query
      rw [Services.geocodeKey, Services.geocodeKey, digests]

/-- Calls that share an entry are calls of one service. -/
theorem ttlSec_of_sameEntry {query other : Query}
    (same : SameEntry services query other) :
    services.ttlSec query = services.ttlSec other := by
  cases query <;> cases other <;> first | rfl | exact same.elim

theorem uniform : Uniform services.source := by
  intro query other same
  show Services.expiry (services.ttlSec query) =
    Services.expiry (services.ttlSec other)
  rw [ttlSec_of_sameEntry (key_eq_iff.mp same)]

/-- A lifetime the store accepts is the time to live in milliseconds. -/
theorem expiry_eq {seconds : Rat} {lifetime : Int}
    (accepted : Services.expiry seconds = some lifetime) :
    (lifetime : Rat) = 1000 * seconds := by
  obtain ⟨⟨whole, -⟩, same⟩ := Option.ite_none_right_eq_some.mp accepted
  have exactly : seconds = seconds.num := by
    rw [Rat.coe_int_num_of_den_eq_one whole]
  rw [← Option.some.inj same]
  push_cast
  rw [← exactly]
  ring

/-! ## Values -/

/-- The service can take the value for what it casts it to. -/
def Readable : Query → Value → Prop
  | .snapshot _, value => ∃ snapshot, readSnapshot value = some snapshot
  | .forecast _, value => ∃ report, readReport value = some report
  | .search _, value => ∃ results, readResults value = some results

theorem readable_of_interpret {query : Query} {response value : Value}
    (read : Services.interpret query response = some value) :
    Readable query value := by
  cases query with
  | snapshot place =>
      obtain ⟨current, -, same⟩ := Option.map_eq_some_iff.mp read
      exact ⟨toSnapshot current, same ▸ readSnapshot_snapshotValue _⟩
  | forecast place =>
      obtain ⟨forecast, -, same⟩ := Option.map_eq_some_iff.mp read
      exact ⟨toReport forecast, same ▸ readReport_reportValue _⟩
  | search query =>
      obtain ⟨results, -, same⟩ := Option.map_eq_some_iff.mp read
      exact ⟨results, same ▸ readResults_resultsValue _⟩

theorem readable_of_sameEntry {query other : Query} {value : Value}
    (same : SameEntry services query other) (readable : Readable query value) :
    Readable other value := by
  cases query <;> cases other <;> first | exact readable | exact same.elim

/-- A cached value takes the branch of a hit. -/
theorem truthy_of_interpret {query : Query} {response value : Value}
    (read : Services.interpret query response = some value) :
    value.truthy = true := by
  cases query with
  | snapshot place =>
      obtain ⟨current, -, same⟩ := Option.map_eq_some_iff.mp read
      rw [← same]
      rfl
  | forecast place =>
      obtain ⟨forecast, -, same⟩ := Option.map_eq_some_iff.mp read
      rw [← same]
      rfl
  | search query =>
      obtain ⟨results, -, same⟩ := Option.map_eq_some_iff.mp read
      rw [← same]
      rfl

/-! ## Answers -/

section Answers

abbrev Record (Id : Type*) := List (Event Id Query Value Value)

/-- The upstream answered the call itself. -/
def OwnAnswer (events : Record Id) (id : Id) (query : Query) (value : Value) :
    Prop :=
  ∃ response time, .fetched id query response time ∈ events ∧
    Services.interpret query response = some value

/--
The call found what another one was answered and wrote down, within the time
to live of the service.
-/
def SharedCopy (services : Services) (events : Record Id) (id : Id)
    (query : Query) (value : Value) : Prop :=
  ∃ (writer : Id) (origin : Query) (response : Value)
    (fetchedAt writtenAt foundAt : Int),
    .fetched writer origin response fetchedAt ∈ events ∧
      Services.interpret origin response = some value ∧
      .written origin value writtenAt ∈ events ∧
      .hit id query value foundAt ∈ events ∧
      SameEntry services origin query ∧
      fetchedAt ≤ writtenAt ∧ writtenAt ≤ foundAt ∧
      (foundAt : Rat) < writtenAt + 1000 * services.ttlSec query

/-- A search that failed, which finds nothing. -/
def NothingFound (events : Record Id) (id : Id) (query : Query)
    (value : Value) : Prop :=
  (∃ text, query = .search text) ∧ value = resultsValue [] ∧
    ∃ time, .gaveUp id query time ∈ events

variable {now : Int}

theorem sharedCopy_of_copied {events : Record Id}
    {state : State Id Query String Value}
    (sound : Sound services.source events state) {id : Id} {query : Query}
    {value : Value} {time : Int}
    (hit : .hit id query value time ∈ events)
    (copied : Copied services.source events query value time) :
    SharedCopy services events id query value := by
  obtain ⟨origin, lifetime, writtenAt, written, same, kept, before, early⟩ :=
    copied
  obtain ⟨writer, _, -, response, fetchedAt, fetched, read, earlier⟩ :=
    sound.written written
  have entry := key_eq_iff.mp same
  refine ⟨writer, origin, response, fetchedAt, writtenAt, time, fetched, read,
    written, hit, entry, earlier, before, ?_⟩
  rw [← ttlSec_of_sameEntry entry, ← expiry_eq kept]
  exact_mod_cast early

variable [DecidableEq Id]

/-- Every value a service returns is one of its own, and has a source. -/
theorem answers_of_run {final : State Id Query String Value}
    {labels : List (Label services.source Id)}
    (reached : (services.source.machine Id).run
      (.start Id Query String Value now) labels = some final)
    {id : Id} {query : Query} {value : Value}
    (returned : final.calls id = .returned query value) :
    let events := (services.source.machine Id).history services.source.record
      (.start Id Query String Value now) labels
    Readable query value ∧
      (OwnAnswer events id query value ∨
        SharedCopy services events id query value ∨
        NothingFound events id query value) := by
  intro events
  have sound : Sound services.source events final := sound_of_run reached
  have earned := sound.earned id
  rw [returned] at earned
  cases earned with
  | fetched own =>
      obtain ⟨response, time, fetched, read, -⟩ := own
      exact ⟨readable_of_interpret read, .inl ⟨response, time, fetched, read⟩⟩
  | copied hit copied =>
      have shared := sharedCopy_of_copied sound hit copied
      refine ⟨?_, .inr (.inl shared)⟩
      obtain ⟨_, origin, response, _, _, _, _, read, _, _, same, _⟩ := shared
      exact readable_of_sameEntry same (readable_of_interpret read)
  | @fallback time gaveUp chosen =>
      cases query with
      | snapshot place => cases chosen
      | forecast place => cases chosen
      | search text =>
          have empty : resultsValue [] = value := Option.some.inj chosen
          refine ⟨⟨[], ?_⟩, .inr (.inr ⟨⟨text, rfl⟩, empty.symm, time, gaveUp⟩)⟩
          rw [← empty]
          exact readResults_resultsValue []

/-- A client whose text functions are stand-ins on what they are given here. -/
def defaults : Services where
  toLowerCase text := String.ofList (text.toList.map Char.toLower)
  sha256 text := text
  weatherCacheTtlSec := none

def berlin : Coordinates where
  latitude := 5252 / 100
  longitude := 13403 / 1000
  latitudeInRange := by constructor <;> norm_num
  longitudeInRange := by constructor <;> norm_num

def berlinMitte : Coordinates where
  latitude := 52521 / 1000
  longitude := 13401 / 1000
  latitudeInRange := by constructor <;> norm_num
  longitudeInRange := by constructor <;> norm_num

def hotResponse : Value :=
  .obj [("current", .obj [("temperature_2m", ofNumber 31),
    ("apparent_temperature", ofNumber 33),
    ("relative_humidity_2m", ofNumber 40), ("wind_speed_10m", ofNumber 5),
    ("precipitation", ofNumber 0), ("weather_code", ofNumber 1)])]

/-- One request is repeated and answered, another finds the copy. -/
def sharedLookups : List (Label defaults.source Nat) :=
  [.call 0 (.snapshot berlin), .look 0, .respond 0 none,
    .respond 0 (some hotResponse), .write 0, .saved 0, .tick 239999,
    .call 1 (.snapshot berlinMitte), .look 1]

/-- The temperature a call of the provider has returned. -/
def servedTemperature : Phase Query Value → Option Rat
  | .returned (.snapshot _) value =>
      (readSnapshot value).map WeatherSnapshot.temperature
  | _ => none

theorem returned_of_servedTemperature {phase : Phase Query Value}
    {temperature : Rat} (served : servedTemperature phase = some temperature) :
    ∃ place value, phase = .returned (.snapshot place) value := by
  unfold servedTemperature at served
  split at served
  · exact ⟨_, _, rfl⟩
  · cases served

theorem run_sharedLookups :
    ∃ (final : State Nat Query String Value) (place : Coordinates)
      (value : Value),
      (defaults.source.machine Nat).run
          (.start Nat Query String Value 0) sharedLookups = some final ∧
        servedTemperature (final.calls 1) = some 31 ∧
        final.calls 1 = .returned (.snapshot place) value := by
  have ran : ((defaults.source.machine Nat).run
      (.start Nat Query String Value 0) sharedLookups).map
        (fun final => servedTemperature (final.calls 1)) =
      some (some 31) := by
    decide +kernel
  obtain ⟨final, reached, served⟩ := Option.map_eq_some_iff.mp ran
  obtain ⟨place, value, returned⟩ := returned_of_servedTemperature served
  exact ⟨final, place, value, reached, served, returned⟩

theorem answers_of_sharedLookups :
    ∃ (final : State Nat Query String Value) (place : Coordinates)
      (value : Value),
      servedTemperature (final.calls 1) = some 31 ∧
        final.calls 1 = .returned (.snapshot place) value ∧
        Readable (.snapshot place) value := by
  obtain ⟨final, place, value, reached, served, returned⟩ := run_sharedLookups
  exact ⟨final, place, value, served, returned,
    (answers_of_run reached returned).1⟩

/--
A call is answered from the store, and spends no request of the upstream,
exactly when a copy was left under its key less than the time to live ago.
-/
theorem lookups_of_run {state : State Id Query String Value}
    {labels : List (Label services.source Id)}
    (reached : (services.source.machine Id).run
      (.start Id Query String Value now) labels = some state)
    {id : Id} {query : Query} (looking : state.calls id = .looking query)
    (unevicted : .evict (services.source.key query) ∉ labels) :
    (∃ value, (services.source.machine Id).step state (.look id) =
        some (state.moveTo id (.returned query value))) ↔
      ∃ (origin : Query) (value : Value) (time : Int),
        .written origin value time ∈
          (services.source.machine Id).history services.source.record
            (.start Id Query String Value now) labels ∧
        SameEntry services origin query ∧
        (state.now : Rat) < time + 1000 * services.ttlSec query := by
  have found := found_iff_of_run uniform truthy_of_interpret unevicted reached
  constructor
  · rintro ⟨value, stepped⟩
    have copied : ∃ value, services.source.copy state query = some value := by
      cases copy : services.source.copy state query with
      | some value => exact ⟨value, rfl⟩
      | none =>
          have missed : (services.source.machine Id).step state (.look id) =
              some (state.moveTo id (.asking query
                (services.source.repeats query))) := by
            simp only [Source.machine, Source.advance, looking, copy,
              Option.map_some]
          have phases := congrArg (fun next => next.calls id)
            (Option.some.inj (missed.symm.trans stepped))
          simp only [State.moveTo_self, reduceCtorEq] at phases
    obtain ⟨origin, value, lifetime, time, written, same, kept, early⟩ :=
      found.mp copied
    have entry := key_eq_iff.mp same
    refine ⟨origin, value, time, written, entry, ?_⟩
    rw [← ttlSec_of_sameEntry entry, ← expiry_eq kept]
    exact_mod_cast early
  · rintro ⟨origin, value, time, written, entry, early⟩
    obtain ⟨_, lifetime, kept, -⟩ := (sound_of_run reached).written written
    obtain ⟨copy, copied⟩ := found.mpr
      ⟨origin, value, lifetime, time, written, key_eq_iff.mpr entry, kept, by
        rw [← ttlSec_of_sameEntry entry, ← expiry_eq kept] at early
        exact_mod_cast early⟩
    refine ⟨copy, ?_⟩
    simp only [Source.machine, Source.advance, looking, copied,
      Option.map_some]

theorem lookups_of_sharedLookups :
    ∃ (state : State Nat Query String Value) (query : Query),
      (defaults.source.machine Nat).run
          (.start Nat Query String Value 0) (sharedLookups.take 8) =
        some state ∧
      state.calls 1 = .looking query ∧
      ∃ (origin : Query) (value : Value) (time : Int),
        .written origin value time ∈
          (defaults.source.machine Nat).history defaults.source.record
            (.start Nat Query String Value 0) (sharedLookups.take 8) ∧
        SameEntry defaults origin query ∧
        (state.now : Rat) < time + 1000 * defaults.ttlSec query := by
  obtain ⟨final, place, value, reached, -, returned⟩ := run_sharedLookups
  have split : sharedLookups = sharedLookups.take 8 ++ [.look 1] := rfl
  rw [split, Machine.run_append] at reached
  obtain ⟨state, before, last⟩ := Option.bind_eq_some_iff.mp reached
  obtain ⟨next, stepped, same⟩ := Option.bind_eq_some_iff.mp last
  have ended := Option.some.inj same
  subst ended
  have unevicted : ∀ key : String,
      .evict key ∉ sharedLookups.take 8 := by
    intro key
    simp [sharedLookups]
  obtain ⟨⟨_, recorded⟩, advanced, rfl⟩ := Option.map_eq_some_iff.mp stepped
  cases stepped_of_advance advanced with
  | @hit _ query found looking =>
      exact ⟨state, query, before, looking,
        (lookups_of_run before looking (unevicted _)).mp ⟨found, stepped⟩⟩
  | missed looking =>
      simp only [State.moveTo_self, reduceCtorEq] at returned

end Answers

end WeatherNotify.OpenMeteo
