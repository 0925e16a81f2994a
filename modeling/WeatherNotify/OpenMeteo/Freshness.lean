import WeatherNotify.Domain.Proximity
import WeatherNotify.OpenMeteo.Answers

/-!
# What the triggers of a location are decided on

A cycle asks for the weather at the first trigger of a location and decides
every trigger of that location on it; the answer may be a copy of what was
fetched for another place that prints alike.  The weather is still that of a
place close by, and it is recent.  Why a copy has to be dropped before the next
cycle asks is in the comment on the provider's time to live.
-/

namespace WeatherNotify.OpenMeteo

open WeatherNotify.Caching
open WeatherNotify.Domain
open WeatherNotify.Js
open WeatherNotify.Transition

variable {Id : Type*} {services : Services} {now : Int}

/--
Cycles start at least a period apart, and snapshots are written down soon after
the start of one.
-/
structure Prompt (events : Record Id) (starts : Nat → Int)
    (period patience : Int) : Prop where
  apart : ∀ cycle, starts cycle + period ≤ starts (cycle + 1)
  soon : ∀ {place : Coordinates} {value : Value} {time : Int},
    .written (.snapshot place) value time ∈ events →
      ∃ cycle, starts cycle ≤ time ∧ time < starts cycle + patience

theorem Prompt.starts_le {events : Record Id} {starts : Nat → Int}
    {period patience : Int} (prompt : Prompt events starts period patience)
    (nonneg : 0 ≤ period) {earlier later : Nat} (before : earlier < later) :
    starts earlier + period ≤ starts later := by
  induction later with
  | zero => exact absurd before (Nat.not_lt_zero earlier)
  | succ later induction =>
      have next := prompt.apart later
      rcases Nat.lt_succ_iff_lt_or_eq.mp before with less | same
      · have reached := induction less
        omega
      · rw [same]
        exact next

/-- A copy that is dropped within the period is of the cycle that finds it. -/
theorem Prompt.same_cycle {events : Record Id} {starts : Nat → Int}
    {period patience : Int} (prompt : Prompt events starts period patience)
    (nonneg : 0 ≤ period) {place : Coordinates} {value : Value}
    {writtenAt foundAt : Int} {ttl : Rat}
    (written : .written (.snapshot place) value writtenAt ∈ events)
    (early : (foundAt : Rat) < writtenAt + 1000 * ttl)
    (short : 1000 * ttl + patience ≤ period) {cycle : Nat}
    (started : starts cycle ≤ foundAt) : starts cycle ≤ writtenAt := by
  obtain ⟨other, after, within⟩ := prompt.soon written
  rcases Nat.lt_or_ge other cycle with earlier | later
  · have later := prompt.starts_le nonneg earlier
    have late : (foundAt : Rat) < starts other + period := by
      have soon : (writtenAt : Rat) < starts other + patience := by
        exact_mod_cast within
      linarith
    have less : foundAt < starts other + period := by exact_mod_cast late
    omega
  · rcases Nat.lt_or_eq_of_le later with less | same
    · have reached := prompt.starts_le nonneg less
      omega
    · rw [same]
      exact after

/-- A place close enough to decide a trigger there. -/
def closeBy : Rat := 1 / 50 + 1 / 10 ^ 12

/-- The snapshot is what the upstream sent for a place. -/
def SentFor (events : Record Id) (writer : Id) (seen : Coordinates)
    (snapshot : WeatherSnapshot) (fetchedAt : Int) : Prop :=
  ∃ response, .fetched writer (.snapshot seen) response fetchedAt ∈ events ∧
    (openMeteoResponseSchema response).map toSnapshot = some snapshot

theorem snapshot_of_interpret {place : Coordinates} {response value : Value}
    (read : Services.interpret (.snapshot place) response = some value) :
    ∃ snapshot, readSnapshot value = some snapshot ∧
      (openMeteoResponseSchema response).map toSnapshot = some snapshot := by
  obtain ⟨current, parsed, same⟩ := Option.map_eq_some_iff.mp read
  refine ⟨toSnapshot current, same ▸ readSnapshot_snapshotValue _, ?_⟩
  rw [parsed, Option.map_some]

theorem within_closeBy_of_locationKey {member asked seen : Coordinates}
    (grouped : locationKey Number.nearest member.latitude member.longitude =
      locationKey Number.nearest asked.latitude asked.longitude)
    (near : asked.Within seen (1 / 100)) : member.Within seen closeBy := by
  have far := (within_of_locationKey grouped).trans near
  have sum : (1 / 100 + 1 / 10 ^ 12 + 1 / 100 : Rat) = closeBy := by
    norm_num [closeBy]
  rwa [sum] at far

variable [DecidableEq Id]

/--
The snapshot a location is decided on was sent for a place close to each of its
triggers; it is the answer to this call, or a copy younger than the time to
live, which was written in the same cycle when copies are written soon enough.
-/
theorem decided_on_of_run {final : State Id Query String Value}
    {labels : List (Label services.source Id)}
    (reached : (services.source.machine Id).run
      (.start Id Query String Value now) labels = some final)
    {id : Id} {asked : Coordinates} {value : Value}
    (returned : final.calls id = .returned (.snapshot asked) value) :
    let events := (services.source.machine Id).history services.source.record
      (.start Id Query String Value now) labels
    ∃ (snapshot : WeatherSnapshot) (writer : Id) (seen : Coordinates)
      (fetchedAt : Int),
      readSnapshot value = some snapshot ∧
      SentFor events writer seen snapshot fetchedAt ∧
      (∀ member : Coordinates,
        locationKey Number.nearest member.latitude member.longitude =
            locationKey Number.nearest asked.latitude asked.longitude →
          member.Within seen closeBy) ∧
      ((writer = id ∧ seen = asked) ∨
        ∃ writtenAt foundAt,
          .written (.snapshot seen) value writtenAt ∈ events ∧
          .hit id (.snapshot asked) value foundAt ∈ events ∧
          fetchedAt ≤ writtenAt ∧ writtenAt ≤ foundAt ∧
          (foundAt : Rat) < writtenAt + 1000 * services.ttl ∧
          ∀ {starts : Nat → Int} {period patience : Int} {cycle : Nat},
            Prompt events starts period patience → 0 ≤ period →
              1000 * services.ttl + patience ≤ period →
                starts cycle ≤ foundAt → starts cycle ≤ writtenAt) := by
  intro events
  obtain ⟨-, own | shared | nothing⟩ := answers_of_run reached returned
  · obtain ⟨response, fetchedAt, fetched, read⟩ := own
    obtain ⟨snapshot, reads, parsed⟩ := snapshot_of_interpret read
    refine ⟨snapshot, id, asked, fetchedAt, reads, ⟨response, fetched, parsed⟩,
      fun member grouped => ?_, .inl ⟨rfl, rfl⟩⟩
    exact within_closeBy_of_locationKey grouped
      (within_of_printed rfl rfl)
  · obtain ⟨writer, origin, response, fetchedAt, writtenAt, foundAt, fetched,
      read, written, hit, same, before, after, early⟩ := shared
    cases origin with
    | forecast place => exact same.elim
    | search query => exact same.elim
    | snapshot seen =>
        obtain ⟨snapshot, reads, parsed⟩ := snapshot_of_interpret read
        refine ⟨snapshot, writer, seen, fetchedAt, reads,
          ⟨response, fetched, parsed⟩, fun member grouped => ?_,
          .inr ⟨writtenAt, foundAt, written, hit, before, after, early, ?_⟩⟩
        · exact within_closeBy_of_locationKey grouped
            (within_of_printed same.1.symm same.2.symm)
        · intro starts period patience cycle prompt nonneg short started
          exact prompt.same_cycle nonneg written early short started
  · obtain ⟨⟨text, other⟩, -⟩ := nothing
    cases other

theorem decided_on_of_sharedLookups :
    ∃ (final : State Nat Query String Value) (asked : Coordinates)
      (value : Value) (snapshot : WeatherSnapshot) (seen : Coordinates),
      (defaults.source.machine Nat).run
          (.start Nat Query String Value 0) sharedLookups = some final ∧
        final.calls 1 = .returned (.snapshot asked) value ∧
        servedTemperature (final.calls 1) = some 31 ∧
        readSnapshot value = some snapshot ∧
        ∀ member : Coordinates,
          locationKey Number.nearest member.latitude member.longitude =
              locationKey Number.nearest asked.latitude asked.longitude →
            member.Within seen closeBy := by
  obtain ⟨final, asked, value, reached, served, returned⟩ := run_sharedLookups
  obtain ⟨snapshot, writer, seen, fetchedAt, reads, -, near, -⟩ :=
    decided_on_of_run reached returned
  exact ⟨final, asked, value, snapshot, seen, reached, returned, served, reads,
    near⟩

end WeatherNotify.OpenMeteo
