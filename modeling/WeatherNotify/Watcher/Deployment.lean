import WeatherNotify.Common.Environment
import WeatherNotify.Watcher.Evaluation
import WeatherNotify.Watcher.Sharding

/-!
# Watcher processes and the shards they are configured as

A watcher reads its shard and its concurrency from the environment it booted
with.  An environment the schema accepts always stands for a shard in range,
and how many workers a cycle starts is a positive number.  Which locations a
deployment covers depends on the configured indices alone.
-/

namespace WeatherNotify.Watcher

open WeatherNotify.Common
open WeatherNotify.Domain
open WeatherNotify.Js
open WeatherNotify.Triggers

/-! ## What a process reads from its environment -/

/-- The shard coordinates as the process holds them, two numbers. -/
structure ShardCoordinates where
  index : Rat
  count : Rat
  deriving DecidableEq

/-- `Number(text ?? fallback)`. -/
def numberOr (fallback : Rat) (text : Option String) : Number :=
  (text.map Number.ofString).getD (.finite fallback)

/-- A finite number that passes the test, else the fallback. -/
def finiteOr (fallback : Rat) (test : Rat → Bool) : Number → Rat
  | .finite value => if test value then value else fallback
  | _ => fallback

def shardFromEnv (env : ProcessEnv) : ShardCoordinates where
  count := finiteOr 1 (0 < ·) (numberOr 1 (env "WATCHER_SHARD_COUNT"))
  index := finiteOr 0 (0 ≤ ·) (numberOr 0 (env "WATCHER_SHARD_INDEX"))

namespace ShardCoordinates

def bucketsForShard (shard : ShardCoordinates) : List Int :=
  ((List.range locationBuckets).filter fun bucket =>
    Number.remainder bucket shard.count = shard.index).map Int.ofNat

def shardBuckets (shard : ShardCoordinates) : Option (List Int) :=
  if shard.count ≤ 1 then none else some shard.bucketsForShard

end ShardCoordinates

def defaultConcurrency : Rat := 5

/-- `Number(config.get("WATCHER_CONCURRENCY"))`, bounded by the constructor. -/
def concurrency (config : WatcherEnv) : Rat :=
  finiteOr defaultConcurrency (0 < ·)
    (config.watcherConcurrency.getD .nan)

/-- The active rows a process with this environment reads in a cycle. -/
def read (env : ProcessEnv) (table : List TriggerRow) : List TriggerRow :=
  findActive table (shardFromEnv env).shardBuckets

/-! ## The shard of an accepted environment -/

variable {env : ProcessEnv}

/-- Numbers and the shard they stand for; a lone shard has no use for its index. -/
structure StandsFor (coordinates : ShardCoordinates) (shard : ShardConfig) :
    Prop where
  count : coordinates.count = shard.count
  index : 1 < shard.count → coordinates.index = shard.index

theorem StandsFor.shardBuckets {coordinates : ShardCoordinates}
    {shard : ShardConfig} (standsFor : StandsFor coordinates shard) :
    coordinates.shardBuckets = Watcher.shardBuckets shard := by
  have single : coordinates.count ≤ 1 ↔ shard.count ≤ 1 := by
    rw [standsFor.count]
    exact_mod_cast Iff.rfl
  unfold ShardCoordinates.shardBuckets Watcher.shardBuckets
  by_cases alone : shard.count ≤ 1
  · rw [if_pos (single.mpr alone), if_pos alone]
  · rw [if_neg (single.not.mpr alone), if_neg alone]
    unfold ShardCoordinates.bucketsForShard Domain.bucketsForShard
    rw [standsFor.count, standsFor.index (Nat.lt_of_not_le alone)]
    simp only [Number.remainder_natCast, Nat.cast_inj]

theorem standsFor_of_accepted
    (accepted : (watcherEnvSchema env).isSome = true) :
    ∃ shard, StandsFor (shardFromEnv env) shard := by
  rcases Option.isSome_iff_exists.mp accepted with ⟨parsed, schema⟩
  rcases fields_of_watcherEnvSchema schema with
    ⟨counted, indexed, -, -, positive, inRange⟩
  rcases value_of_optional Nat.cast_one counted with ⟨readCount, countValue⟩
  rcases value_of_optional Nat.cast_zero indexed with ⟨readIndex, indexValue⟩
  have countNumber : (shardFromEnv env).count = finiteOr 1 (0 < ·)
      (parsed.watcherShardCount.getD (.finite 1)) :=
    congrArg (finiteOr 1 (0 < ·)) readCount.symm
  have indexNumber : (shardFromEnv env).index = finiteOr 0 (0 ≤ ·)
      (parsed.watcherShardIndex.getD (.finite 0)) :=
    congrArg (finiteOr 0 (0 ≤ ·)) readIndex.symm
  rcases countValue with unbounded | ⟨count, countIs⟩
  · -- a count beyond the doubles falls back to a single shard
    rw [unbounded] at countNumber
    exact ⟨⟨0, 1, Nat.zero_lt_one⟩, countNumber.trans Nat.cast_one.symm,
      fun several => absurd several (Nat.lt_irrefl 1)⟩
  · rw [countIs] at countNumber positive inRange
    rcases indexValue with unbounded | ⟨index, indexIs⟩
    · rw [unbounded] at inRange
      cases inRange
    · rw [indexIs] at indexNumber inRange
      have below : index < count := by
        simpa [Number.lt] using inRange
      refine ⟨⟨index, count, below⟩, ?_, fun _ => ?_⟩
      · rw [countNumber]
        exact if_pos positive
      · rw [indexNumber]
        exact if_pos (by simp)

/-- A cycle of an accepted watcher starts workers. -/
theorem workerCount_pos {parsed : WatcherEnv}
    (accepted : watcherEnvSchema env = some parsed) :
    1 ≤ Evaluation.workerCount (concurrency parsed) := by
  rcases fields_of_watcherEnvSchema accepted with
    ⟨-, -, bounded, positive, -, -⟩
  cases given : parsed.watcherConcurrency with
  | none =>
      simp [concurrency, given, finiteOr, defaultConcurrency,
        Evaluation.workerCount]
  | some value =>
      rcases (value_of_optional Nat.cast_one bounded).2 with unbounded | ⟨workers, finite⟩
      · rw [given] at unbounded
        change value = _ at unbounded
        simp [concurrency, given, unbounded, finiteOr, defaultConcurrency,
          Evaluation.workerCount]
      · rw [given] at finite positive
        change value = _ at finite
        change value.isPositive = true at positive
        rw [finite] at positive
        have some : 0 < workers := by simpa [Number.isPositive] using positive
        simp [concurrency, given, finite, finiteOr, some,
          Evaluation.workerCount]
        omega

/-! ## What a deployment covers -/

/-- A bucket that some location hashes to. -/
def InRange (row : TriggerRow) : Prop :=
  0 ≤ row.locationBucket ∧ row.locationBucket < locationBuckets

theorem InRange.toNat_lt {row : TriggerRow} (inRange : InRange row) :
    row.locationBucket.toNat < locationBuckets :=
  (Int.toNat_lt inRange.1).mpr inRange.2

theorem StandsFor.mem_read_iff {shard : ShardConfig}
    (standsFor : StandsFor (shardFromEnv env) shard)
    {table : List TriggerRow} {row : TriggerRow} (inRange : InRange row) :
    row ∈ read env table ↔
      row ∈ table ∧ row.isActive = true ∧
        row.locationBucket.toNat % shard.count = shard.index := by
  unfold read
  rw [standsFor.shardBuckets, mem_findActive_iff]
  exact and_congr_right fun _ => and_congr_right fun _ =>
    @mem_shardBuckets_iff shard.count ⟨shard.index, shard.inRange⟩ _
      inRange.1 inRange.2

/-- An active trigger in a bucket. -/
def rowInBucket (bucket : Nat) : TriggerRow :=
  { berlinRow with locationBucket := bucket }

theorem inRange_rowInBucket {bucket : Nat} (below : bucket < locationBuckets) :
    InRange (rowInBucket bucket) :=
  ⟨Int.natCast_nonneg bucket, Int.ofNat_lt.mpr below⟩

/--
In a deployment whose processes agree on the number of shards, a trigger is
read by the processes whose index is the residue of its bucket.  A process
past the last bucket reads nothing, and no trigger is left out exactly when
every index below the smaller of the two numbers is configured.
-/
theorem coverage_of_accepted {Process : Type} {env : Process → ProcessEnv}
    {n : Nat} (positive : 0 < n)
    (accepted : ∀ process, (watcherEnvSchema (env process)).isSome = true)
    (agreed : ∀ process, (shardFromEnv (env process)).count = n) :
    ∃ index : Process → Nat,
      (∀ process, index process < n ∧
        (1 < n → (shardFromEnv (env process)).index = index process)) ∧
      (∀ process table row, InRange row →
        (row ∈ read (env process) table ↔
          row ∈ table ∧ row.isActive = true ∧
            row.locationBucket.toNat % n = index process)) ∧
      (∀ process, (∃ table, ∃ row ∈ read (env process) table, InRange row) ↔
        index process < locationBuckets) ∧
      ((∀ table, ∀ row ∈ table, row.isActive = true → InRange row →
          ∃ process, row ∈ read (env process) table) ↔
        ∀ residue, residue < n → residue < locationBuckets →
          ∃ process, index process = residue) ∧
      ∀ process config, watcherEnvSchema (env process) = some config →
        1 ≤ Evaluation.workerCount (concurrency config) := by
  choose shard standsFor using
    fun process => standsFor_of_accepted (accepted process)
  have counts : ∀ process, (shard process).count = n := by
    intro process
    have equal := (standsFor process).count.symm.trans (agreed process)
    exact_mod_cast equal
  have reads : ∀ process table row, InRange row →
      (row ∈ read (env process) table ↔
        row ∈ table ∧ row.isActive = true ∧
          row.locationBucket.toNat % n = (shard process).index) := by
    intro process table row inRange
    rw [(standsFor process).mem_read_iff inRange, counts]
  have residueOf : ∀ {bucket : Nat}, bucket < n →
      (rowInBucket bucket).locationBucket.toNat % n = bucket :=
    fun below => Nat.mod_eq_of_lt below
  have inOrder : ∀ process, (shard process).index < n := by
    intro process
    rw [← counts process]
    exact (shard process).inRange
  refine ⟨fun process => (shard process).index, ?_, reads, ?_, ?_,
    fun process config schema => workerCount_pos schema⟩
  · intro process
    refine ⟨inOrder process, fun several => (standsFor process).index ?_⟩
    rw [counts]
    exact several
  · intro process
    constructor
    · rintro ⟨table, row, listed, inRange⟩
      have residue := ((reads process table row inRange).mp listed).2.2
      show (shard process).index < locationBuckets
      rw [← residue]
      exact Nat.lt_of_le_of_lt (Nat.mod_le _ n) inRange.toNat_lt
    · intro below
      refine ⟨[rowInBucket (shard process).index], _, ?_,
        inRange_rowInBucket below⟩
      exact (reads process _ _ (inRange_rowInBucket below)).mpr
        ⟨List.mem_singleton_self _, rfl, residueOf (inOrder process)⟩
  · constructor
    · intro covered residue below bucket
      rcases covered [rowInBucket residue] _ (List.mem_singleton_self _) rfl
        (inRange_rowInBucket bucket) with ⟨process, listed⟩
      have index := ((reads process _ _ (inRange_rowInBucket bucket)).mp
        listed).2.2
      exact ⟨process, index.symm.trans (residueOf below)⟩
    · intro configured table row stored active inRange
      rcases configured (row.locationBucket.toNat % n)
        (Nat.mod_lt _ positive)
        (Nat.lt_of_le_of_lt (Nat.mod_le _ n) inRange.toNat_lt) with
        ⟨process, index⟩
      exact ⟨process, (reads process table row inRange).mpr
        ⟨stored, active, index.symm⟩⟩

/-- What both halves of a deployment are configured with. -/
def halfOf (index : String) : ProcessEnv :=
  fun name => [("DATABASE_URL", "postgresql://db"),
    ("REDIS_URL", "redis://cache"), ("RABBITMQ_URL", "amqp://broker"),
    ("WATCHER_CRON", "*/5 * * * *"), ("WATCHER_SHARD_COUNT", "02"),
    ("WATCHER_SHARD_INDEX", index)].lookup name

def halves : Bool → ProcessEnv
  | false => halfOf "0"
  | true => halfOf "1"

theorem coverage_of_halves :
    ∃ process, rowInBucket 466 ∈ read (halves process) [rowInBucket 466] := by
  have accepted : ∀ process,
      (watcherEnvSchema (halves process)).isSome = true := by
    decide +kernel
  have agreed : ∀ process, (shardFromEnv (halves process)).count = 2 := by
    decide +kernel
  have indices : (shardFromEnv (halves false)).index = 0 ∧
      (shardFromEnv (halves true)).index = 1 := by
    decide +kernel
  rcases @coverage_of_accepted Bool halves 2 Nat.two_pos accepted
    (by exact_mod_cast agreed) with ⟨index, configured, -, -, covers, -⟩
  have first := (configured false).2 Nat.one_lt_two
  have second := (configured true).2 Nat.one_lt_two
  rw [indices.1] at first
  rw [indices.2] at second
  refine covers.mpr ?_ _ _ (List.mem_singleton_self _) rfl
    (inRange_rowInBucket (by decide))
  intro residue below _
  rcases Nat.lt_succ_iff_lt_or_eq.mp below with zero | one
  · refine ⟨false, ?_⟩
    have none : index false = 0 := by exact_mod_cast first.symm
    omega
  · refine ⟨true, ?_⟩
    have last : index true = 1 := by exact_mod_cast second.symm
    omega

end WeatherNotify.Watcher
