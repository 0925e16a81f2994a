import Mathlib.Data.List.Count
import WeatherNotify.Watcher.Fleet

/-!
# The cycle locks keep the evaluations of a trigger apart

A cycle that holds the lock of its shard while it reads and while its triggers
are under way meets no other cycle of the shard, and cycles of other shards
read other buckets.  So no two evaluations of one trigger are ever under way
together, and everything that is known of the history of one trigger holds for
each trigger of the fleet.  An edit that moves a trigger into another shard
while it is under way is what the locks do not cover.
-/

namespace WeatherNotify.Watcher.Fleet

open WeatherNotify.Common
open WeatherNotify.Domain
open WeatherNotify.Transition

variable {n m count : Nat} {Token : Type} {round : Rat → Rat} {zones : Zones}
  {index : Fin m → Fin count}

/-! ## Locks and shards -/

/-- The query of a shard covers the row. -/
def InShard (shard : ShardConfig) (row : Firing.StoredTrigger) : Prop :=
  ∀ listed ∈ shardBuckets shard, row.locationBucket ∈ listed

instance (shard : ShardConfig) (row : Firing.StoredTrigger) :
    Decidable (InShard shard row) :=
  inferInstanceAs (Decidable (∀ listed ∈ shardBuckets shard, _))

/--
Whoever reads or has a trigger under way still holds the lock of its shard, and
no such trigger has been moved out of that shard.
-/
structure Covered (index : Fin m → Fin count) (state : State n m Token) :
    Prop where
  reads : ∀ watcher, ∀ token ∈ (state.cycles watcher).reading?,
    state.stored index watcher = some token
  works : ∀ duty ∈ state.duties,
    state.stored index duty.watcher = some duty.token
  stays : ∀ duty ∈ state.duties, ∀ row ∈ state.firing.triggers,
    row.id = duty.id → InShard (shard (index duty.watcher)) row

instance [DecidableEq Token] (state : State n m Token) :
    Decidable (Covered index state) :=
  decidable_of_iff ((∀ watcher, ∀ token ∈ (state.cycles watcher).reading?,
      state.stored index watcher = some token) ∧
    (∀ duty ∈ state.duties,
      state.stored index duty.watcher = some duty.token) ∧
    ∀ duty ∈ state.duties, ∀ row ∈ state.firing.triggers,
      row.id = duty.id → InShard (shard (index duty.watcher)) row)
    ⟨fun ⟨reads, works, stays⟩ => ⟨reads, works, stays⟩,
      fun covered => ⟨covered.reads, covered.works, covered.stays⟩⟩

/-- No bucket belongs to two shards. -/
theorem index_eq_of_inShard {left right : Fin count}
    {row : Firing.StoredTrigger} (inLeft : InShard (shard left) row)
    (inRight : InShard (shard right) row) : left = right := by
  rcases Nat.lt_or_ge 1 count with several | single
  · have queried : ∀ place : Fin count, shardBuckets (shard place) =
        some (bucketsForShard place count) :=
      fun place => if_neg (Nat.not_le.mpr several)
    have residueLeft := mem_bucketsForShard.mp (inLeft _ (queried left))
    have residueRight := mem_bucketsForShard.mp (inRight _ (queried right))
    exact Fin.ext (residueLeft.2.2.symm.trans residueRight.2.2)
  · have bounds := And.intro left.isLt right.isLt
    exact Fin.ext (by omega)

theorem inShard_of_mem_findActive {triggers : List Firing.StoredTrigger}
    {profiles : String → QuietHours} {shard : ShardConfig}
    {trigger : Firing.WatchedTrigger}
    (read : trigger ∈
      Firing.findActive triggers profiles (shardBuckets shard)) :
    ∃ row ∈ triggers, row.id = trigger.id ∧ InShard shard row := by
  obtain ⟨row, listed, rfl⟩ := List.mem_map.mp read
  obtain ⟨stored, selected⟩ := List.mem_filter.mp listed
  refine ⟨row, stored, rfl, fun buckets queried => ?_⟩
  rw [Option.mem_def.mp queried] at selected
  exact of_decide_eq_true (Bool.and_eq_true_iff.mp selected).2

/-! ## The invariant -/

structure Sound (state : State n m Token) : Prop where
  counted : ∀ id, state.firing.underWay id =
    state.duties.countP fun duty => duty.id = id
  issued : ∀ duty ∈ state.duties, duty.token ∈ state.generated
  known : ∀ watcher, ∀ token ∈ (state.cycles watcher).reading?,
    token ∈ state.generated
  unread : ∀ watcher, ∀ token ∈ (state.cycles watcher).reading?,
    ∀ duty ∈ state.duties, duty.token ≠ token
  distinct : ∀ left right, ∀ token ∈ (state.cycles left).reading?,
    token ∈ (state.cycles right).reading? → left = right

theorem sound_start (profiles : String → QuietHours) (clock now : Int) :
    Sound (State.start n m profiles clock now : State n m Token) where
  counted _ := rfl
  issued := List.forall_mem_nil _
  known _ _ reading := by cases reading
  unread _ _ reading := by cases reading
  distinct _ _ _ reading := by cases reading

/-- The cycle that reads is the only one with triggers of its shard. -/
theorem Sound.alone {state : State n m Token} (sound : Sound state)
    (covered : Covered index state) {watcher : Fin m} {token : Token}
    (reading : token ∈ (state.cycles watcher).reading?)
    {trigger : Firing.WatchedTrigger}
    (read : trigger ∈ Firing.findActive state.firing.triggers
      state.firing.profiles (shardBuckets (shard (index watcher)))) :
    state.firing.underWay trigger.id = 0 := by
  rw [sound.counted, List.countP_eq_zero]
  intro duty member same
  obtain ⟨row, stored, sameId, inShard⟩ := inShard_of_mem_findActive read
  have other := covered.stays duty member row stored
    (sameId.trans (of_decide_eq_true same).symm)
  have sameShard := index_eq_of_inShard other inShard
  have held := covered.works duty member
  have holds := covered.reads watcher token reading
  rw [State.stored, lockKey, sameShard] at held
  exact sound.unread watcher token reading duty member
    (Option.some.inj (held.symm.trans holds))

variable {state next : State n m Token}

/-- A step that reads nothing new for anyone. -/
theorem Sound.of_calm (sound : Sound state)
    (firing : ∀ id, next.firing.underWay id = state.firing.underWay id)
    (duties : next.duties = state.duties)
    (generated : state.generated ⊆ next.generated)
    (reading : ∀ watcher, ∀ token ∈ (next.cycles watcher).reading?,
      token ∈ (state.cycles watcher).reading?) : Sound next where
  counted id := by
    rw [firing, duties]
    exact sound.counted id
  issued := by
    rw [duties]
    exact fun duty member => generated (sound.issued duty member)
  known watcher token reads :=
    generated (sound.known watcher token (reading watcher token reads))
  unread watcher token reads := by
    rw [duties]
    exact sound.unread watcher token (reading watcher token reads)
  distinct left right token atLeft atRight :=
    sound.distinct left right token (reading left token atLeft)
      (reading right token atRight)

theorem sound_acquired (sound : Sound state) {watcher : Fin m}
    {token : Token} (fresh : token ∉ state.generated)
    (firing : next.firing = state.firing)
    (duties : next.duties = state.duties)
    (generated : next.generated = token :: state.generated)
    (cycles : next.cycles =
      Function.update state.cycles watcher (.reading token)) :
    Sound next := by
  have reading : ∀ other, ∀ read ∈ (next.cycles other).reading?,
      (other = watcher ∧ read = token) ∨
        read ∈ (state.cycles other).reading? := by
    intro other read member
    rw [cycles, Function.update_apply] at member
    split at member
    case isTrue same =>
      cases member
      exact Or.inl ⟨same, rfl⟩
    case isFalse => exact Or.inr member
  constructor
  · rw [firing, duties]
    exact sound.counted
  · rw [duties, generated]
    exact fun duty member =>
      List.mem_cons_of_mem _ (sound.issued duty member)
  · intro other read member
    rw [generated]
    rcases reading other read member with ⟨rfl, rfl⟩ | before
    · exact List.mem_cons_self
    · exact List.mem_cons_of_mem _ (sound.known other read before)
  · intro other read member
    rw [duties]
    rcases reading other read member with ⟨rfl, rfl⟩ | before
    · rintro duty listed rfl
      exact fresh (sound.issued duty listed)
    · exact sound.unread other read before
  · intro left right read atLeft atRight
    rcases reading left read atLeft with ⟨rfl, rfl⟩ | beforeLeft
    · rcases reading right read atRight with ⟨rfl, _⟩ | beforeRight
      · rfl
      · exact absurd (sound.known right read beforeRight) fresh
    · rcases reading right read atRight with ⟨rfl, rfl⟩ | beforeRight
      · exact absurd (sound.known left read beforeLeft) fresh
      · exact sound.distinct left right read beforeLeft beforeRight

theorem sound_read (sound : Sound state) {watcher : Fin m} {token : Token}
    (reading : state.cycles watcher = .reading token)
    (moved : Firing.step round zones state.firing
      (.findActive (shardBuckets (shard (index watcher)))) =
        some next.firing)
    (duties : next.duties = state.duties ++
      (Firing.findActive state.firing.triggers state.firing.profiles
        (shardBuckets (shard (index watcher)))).map
          fun trigger => ⟨watcher, token, trigger.id⟩)
    (generated : next.generated = state.generated)
    (cycles : next.cycles =
      Function.update state.cycles watcher (.polling token)) :
    Sound next := by
  have reads : token ∈ (state.cycles watcher).reading? := by
    rw [reading]
    rfl
  have others : ∀ other, ∀ read ∈ (next.cycles other).reading?,
      other ≠ watcher ∧ read ∈ (state.cycles other).reading? := by
    intro other read member
    rw [cycles, Function.update_apply] at member
    split at member
    case isTrue same => cases member
    case isFalse different => exact ⟨different, member⟩
  have taken : ∀ duty ∈ next.duties,
      duty ∈ state.duties ∨ duty.token = token := by
    intro duty member
    rw [duties] at member
    rcases List.mem_append.mp member with old | new
    · exact Or.inl old
    · obtain ⟨trigger, _, rfl⟩ := List.mem_map.mp new
      exact Or.inr rfl
  constructor
  · intro id
    rw [duties, List.countP_append, List.countP_map, ← sound.counted]
    exact underWay_findActive moved id
  · intro duty member
    rw [generated]
    rcases taken duty member with old | new
    · exact sound.issued duty old
    · rw [new]
      exact sound.known watcher token reads
  · intro other read member
    rw [generated]
    exact sound.known other read (others other read member).2
  · intro other read member duty listed
    obtain ⟨different, before⟩ := others other read member
    rcases taken duty listed with old | new
    · exact sound.unread other read before duty old
    · rintro rfl
      rw [new] at before
      exact different (sound.distinct other watcher token before reads)
  · exact fun left right read atLeft atRight =>
      sound.distinct left right read (others left read atLeft).2
        (others right read atRight).2

theorem sound_concluded [DecidableEq Token] (sound : Sound state)
    {duty : Duty m Token} (member : duty ∈ state.duties)
    (fewer : ∀ id, next.firing.underWay id +
      (if duty.id = id then 1 else 0) = state.firing.underWay id)
    (duties : next.duties = state.duties.erase duty)
    (generated : next.generated = state.generated)
    (cycles : next.cycles = state.cycles) : Sound next := by
  have kept : ∀ other ∈ next.duties, other ∈ state.duties := by
    rw [duties]
    exact fun other listed => List.mem_of_mem_erase listed
  constructor
  · intro id
    have counted := (List.perm_cons_erase member).countP_eq
      fun duty => decide (duty.id = id)
    rw [List.countP_cons, ← duties, ← sound.counted id] at counted
    have left := fewer id
    simp only [decide_eq_true_eq] at counted
    omega
  · rw [generated]
    exact fun other listed => sound.issued other (kept other listed)
  · rw [cycles, generated]
    exact sound.known
  · rw [cycles]
    exact fun watcher token reads other listed =>
      sound.unread watcher token reads other (kept other listed)
  · rw [cycles]
    exact sound.distinct

theorem Sound.step [DecidableEq Token] (sound : Sound state)
    (stepped : Stepped round zones index state next) : Sound next := by
  cases stepped with
  | calm firing duties generated reading =>
      exact sound.of_calm (fun id => by rw [firing]) duties generated reading
  | acquired fresh firing duties generated cycles =>
      exact sound_acquired sound fresh firing duties generated cycles
  | read reading moved duties generated cycles =>
      exact sound_read sound reading moved duties generated cycles
  | tabled moved reads same duties generated cycles =>
      refine sound.of_calm same duties ?_ ?_
      · rw [generated]
        exact List.Subset.refl _
      · rw [cycles]
        exact fun _ _ member => member
  | concluded member moved reads fewer duties generated cycles =>
      exact sound_concluded sound member fewer duties generated cycles

/-! ## Runs -/

/-- The table follows a history of the trigger while the fleet is sound. -/
structure Follows (round : Rat → Rat) (zones : Zones) (id : String)
    (state : State n m Token) (history : History.State Unit) : Prop where
  sound : Sound state
  related : Firing.Related round zones id state.firing history

theorem follows_step [DecidableEq Token] {id : String}
    {history : History.State Unit} (covered : Covered index state)
    (follows : Follows round zones id state history)
    (stepped : Stepped round zones index state next) :
    ∃ moves later, (History.machine zones).run history moves = some later ∧
      Follows round zones id next later := by
  have sound := follows.sound.step stepped
  -- what is not a read of the table needs no guard
  have unguarded : ∀ {label : Firing.Label n},
      Firing.step round zones state.firing label = some next.firing →
        (∀ buckets, label ≠ .findActive buckets) →
          ∃ moves later, (History.machine zones).run history moves =
              some later ∧
            Firing.Related round zones id next.firing later := by
    intro label moved reads
    exact Firing.related_step moved
      (fun buckets read => absurd read (reads buckets)) follows.related
  have answered : ∃ moves later,
      (History.machine zones).run history moves = some later ∧
        Firing.Related round zones id next.firing later := by
    cases stepped with
    | calm firing duties generated reading =>
        rw [firing]
        exact ⟨[], history, rfl, follows.related⟩
    | acquired fresh firing duties generated cycles =>
        rw [firing]
        exact ⟨[], history, rfl, follows.related⟩
    | @read watcher token reading moved duties generated cycles =>
        have taken : (Firing.machine round zones n).step state.firing
            (.findActive (shardBuckets (shard (index watcher)))) =
              some next.firing :=
          moved
        have reads : token ∈ (state.cycles watcher).reading? := by
          rw [reading]
          rfl
        refine Firing.related_step taken ?_ follows.related
        rintro buckets ⟨⟩ ⟨trigger, read, rfl⟩
        exact follows.sound.alone covered reads read
    | tabled moved reads same duties generated cycles =>
        exact unguarded moved reads
    | concluded member moved reads fewer duties generated cycles =>
        exact unguarded moved reads
  obtain ⟨moves, later, run, related⟩ := answered
  exact ⟨moves, later, run, sound, related⟩

/--
As long as whoever reads or has a trigger under way still holds the lock of its
shard, and no trigger under way is moved to another shard, at most one
evaluation of a trigger is under way in the whole fleet at any time, and its
committed evaluations are accounted for: firings are a cooldown apart, an
evaluation fires exactly when it should, and the row says so.
-/
theorem firings_of_fleet [DecidableEq Token] {profiles : String → QuietHours}
    {clock now : Int} {labels : List (Label n m Token)}
    {final : State n m Token}
    (covered : ∀ taken ∈ (machine round zones index).transitions
      (State.start n m profiles clock now) labels,
        Covered index taken.source)
    (reached : (machine round zones index).run
      (State.start n m profiles clock now) labels = some final)
    (id : String) :
    (final.duties.countP fun duty => duty.id = id) ≤ 1 ∧
      final.firing.underWay id ≤ 1 ∧
      Firing.AccountsFor round zones id final.firing := by
  have simulated := Machine.run_simulates
    (fun _ stepped covered _ follows =>
      follows_step covered follows (stepped_of_step stepped))
    ⟨sound_start profiles clock now, [],
      Firing.tracks_empty id profiles clock⟩ covered reached
  obtain ⟨moves, last, moved, sound, related⟩ := simulated
  have alone : final.firing.underWay id ≤ 1 := by
    obtain ⟨edits, tracks⟩ := related
    exact tracks.alone
  refine ⟨?_, alone, Firing.Related.accountsFor moved related⟩
  rw [← sound.counted]
  exact alone

def oldPod : Fin 2 :=
  ⟨0, Nat.zero_lt_two⟩

def newPod : Fin 2 :=
  Fin.last 1

/-- A redeploy has two watchers on the only shard, and the second one waits. -/
def redeployed : List (Label 1 2 String) :=
  [.request ⟨Fin.last 0, .receive (.create "u" Firing.heatDto)⟩ [],
    .request ⟨Fin.last 0, .verified true⟩ [],
    .request ⟨Fin.last 0, .execute⟩ [],
    .request ⟨Fin.last 0, .insert "t"⟩ ["c"],
    .acquireLock oldPod "a" .confirmed, .acquireLock newPod "b" .confirmed,
    .findActive oldPod, .tick 40000, .extendLock oldPod .unconfirmed,
    .processTrigger ⟨oldPod, "a", "t"⟩ 0 Firing.hotDay ⟨0, 1, 2, "e"⟩,
    .commit ⟨oldPod, "a", "t"⟩ 0, .releaseLock oldPod .confirmed,
    .acquireLock newPod "d" .confirmed, .findActive newPod,
    .processTrigger ⟨newPod, "d", "t"⟩ 0 Firing.hotDay ⟨3, 4, 5, "f"⟩,
    .commit ⟨newPod, "d", "t"⟩ 0]

def redeployStart : State 1 2 String :=
  State.start 1 2 (fun _ => ⟨none, none, none⟩) 0 0

theorem firings_of_redeployed :
    ∃ final : State 1 2 String,
      (machine id (fun _ _ => none) fun _ => Fin.last 0).run redeployStart
          redeployed = some final ∧
      final.firing.committed.map
          (fun processing => processing.fires id fun _ _ => none) =
        [false, true] ∧
      Firing.AccountsFor id (fun _ _ => none) "t" final.firing := by
  have ran : ((machine id (fun _ _ => none) fun _ => Fin.last 0).run
      redeployStart redeployed).map (fun final =>
        final.firing.committed.map fun processing =>
          processing.fires id fun _ _ => none) = some [false, true] := by
    decide +kernel
  obtain ⟨final, reached, fired⟩ := Option.map_eq_some_iff.mp ran
  have covered : ∀ taken ∈ (machine id (fun _ _ => none)
      fun _ => Fin.last 0).transitions redeployStart redeployed,
        Covered (fun _ => Fin.last 0) taken.source := by
    decide +kernel
  exact ⟨final, reached, fired, (firings_of_fleet covered reached "t").2.2⟩

end WeatherNotify.Watcher.Fleet
