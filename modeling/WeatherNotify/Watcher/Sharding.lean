import WeatherNotify.Triggers.Repository

/-!
# Splitting the triggers across watcher instances

An instance is configured with its index and the number of instances, and
reads the active triggers whose stored bucket belongs to its index.  The
residue of a bucket is the index of the one instance that reads it, so the
instances split the active triggers by whole locations whatever their number.
-/

namespace WeatherNotify.Watcher

open WeatherNotify.Contracts
open WeatherNotify.Domain
open WeatherNotify.Triggers

/-- A shard as the environment schema admits it at boot. -/
structure ShardConfig where
  index : Nat
  count : Nat
  inRange : index < count
  deriving DecidableEq

/-- The buckets the instance queries for; `none` leaves the query open. -/
def shardBuckets (shard : ShardConfig) : Option (List Int) :=
  if shard.count ≤ 1 then none
  else some (bucketsForShard shard.index shard.count)

/-- One lock per shard. -/
def cycleLockKey (shard : ShardConfig) : String :=
  if 1 < shard.count then "watcher:cycle:lock:" ++ toString shard.index
  else "watcher:cycle:lock"

/-- The active rows, restricted to the buckets when there are any. -/
def findActive (table : List TriggerRow) (buckets : Option (List Int)) :
    List TriggerRow :=
  table.filter fun row =>
    row.isActive &&
      match buckets with
      | none => true
      | some buckets => row.locationBucket ∈ buckets

/-- The shards of a deployment with `n` instances. -/
def shard {n : Nat} (index : Fin n) : ShardConfig where
  index := index
  count := n
  inRange := index.isLt

variable {round : Rat → Rat} {table : List TriggerRow} {row : TriggerRow}

/-! ## The instance that reads a row -/

theorem mem_findActive_iff {buckets : Option (List Int)} :
    row ∈ findActive table buckets ↔
      row ∈ table ∧ row.isActive = true ∧
        ∀ listed ∈ buckets, row.locationBucket ∈ listed := by
  cases buckets <;> simp [findActive]

/-- Every value in the bucket range is listed by the shard of its residue only. -/
theorem mem_shardBuckets_iff {n : Nat} {index : Fin n} {bucket : Int}
    (nonneg : 0 ≤ bucket) (small : bucket < locationBuckets) :
    (∀ listed ∈ shardBuckets (shard index), bucket ∈ listed) ↔
      bucket.toNat % n = index := by
  unfold shardBuckets
  split
  · rename_i single
    have onlyOne : n = 1 := by
      have := index.isLt
      change n ≤ 1 at single
      omega
    subst onlyOne
    simp [Nat.mod_one]
  · simp only [Option.mem_def, Option.some.injEq, forall_eq']
    rw [mem_bucketsForShard]
    constructor
    · exact fun listed => listed.2.2
    · exact fun residue => ⟨nonneg, small, residue⟩

/-- A matching active row is read by the instance of its bucket's residue. -/
theorem mem_findActive_shard_iff {n : Nat} {index : Fin n}
    (active : row.isActive = true) (matching : row.Matches round) :
    row ∈ findActive table (shardBuckets (shard index)) ↔
      row ∈ table ∧
        (Domain.locationBucket round row.latitude
          row.longitude).toNat % n = index := by
  have bounds := locationBucket_bounds round row.latitude row.longitude
  rw [mem_findActive_iff, ← mem_shardBuckets_iff bounds.1 bounds.2,
    ← show row.locationBucket = _ from matching]
  simp only [active, true_and]

theorem cycleLockKey_ne {n : Nat} {left right : Fin n}
    (different : left ≠ right) :
    cycleLockKey (shard left) ≠ cycleLockKey (shard right) := by
  have several : 1 < n := by
    have := left.isLt
    have := right.isLt
    have := Fin.val_ne_of_ne different
    omega
  have key : ∀ index : Fin n, cycleLockKey (shard index) =
      "watcher:cycle:lock:" ++ toString index.val :=
    fun index => if_pos several
  rw [key, key]
  intro equal
  have same := toString_nat_injective (append_left_cancel equal)
  exact different (Fin.ext same)

/-! ## The partition -/

/--
For any number of instances the active triggers are split by whole locations,
one location to one instance, and the instances lock different keys.
-/
theorem shards_partition_locations (n : Nat) (positive : 1 ≤ n)
    (round : Rat → Rat) (table : List TriggerRow)
    (active : ∀ row ∈ table, row.isActive = true)
    (matching : ∀ row ∈ table, row.Matches round) :
    (∀ left right : Fin n, left ≠ right →
        List.Disjoint (findActive table (shardBuckets (shard left)))
          (findActive table (shardBuckets (shard right)))) ∧
      (∀ row, row ∈ table ↔
        ∃ index : Fin n, row ∈ findActive table (shardBuckets (shard index))) ∧
      (n = 1 → ∀ index : Fin n, shardBuckets (shard index) = none ∧
        findActive table (shardBuckets (shard index)) = table) ∧
      (∀ row ∈ table, ∀ other ∈ table,
        locationKey round row.latitude row.longitude =
            locationKey round other.latitude other.longitude →
          ∀ index : Fin n,
            row ∈ findActive table (shardBuckets (shard index)) ↔
              other ∈ findActive table (shardBuckets (shard index))) ∧
      ∀ left right : Fin n, left ≠ right →
        cycleLockKey (shard left) ≠ cycleLockKey (shard right) := by
  refine ⟨?_, ?_, ?_, ?_, fun _ _ => cycleLockKey_ne⟩
  · intro left right different row inLeft inRight
    have member := (mem_findActive_iff.mp inLeft).1
    have atLeft := ((mem_findActive_shard_iff (active row member)
      (matching row member)).mp inLeft).2
    have atRight := ((mem_findActive_shard_iff (active row member)
      (matching row member)).mp inRight).2
    exact different (Fin.ext (atLeft.symm.trans atRight))
  · intro row
    constructor
    · intro member
      have residue := Nat.mod_lt (Domain.locationBucket round row.latitude
        row.longitude).toNat positive
      refine ⟨⟨_, residue⟩, ?_⟩
      exact (mem_findActive_shard_iff (active row member)
        (matching row member)).mpr ⟨member, rfl⟩
    · rintro ⟨index, selected⟩
      exact (mem_findActive_iff.mp selected).1
  · rintro rfl index
    refine ⟨rfl, List.filter_eq_self.mpr ?_⟩
    intro row member
    simpa [shardBuckets, shard] using active row member
  · intro row member other otherMember sameKey index
    have sameBucket :
        Domain.locationBucket round row.latitude row.longitude =
          Domain.locationBucket round other.latitude other.longitude := by
      unfold Domain.locationBucket
      rw [sameKey]
    rw [mem_findActive_shard_iff (active row member) (matching row member),
      mem_findActive_shard_iff (active other otherMember)
        (matching other otherMember), sameBucket]
    simp only [member, otherMember, true_and]

/-- An active trigger in Berlin, with the bucket of its coordinates. -/
def berlinRow : TriggerRow where
  id := "t1"
  userId := "ann"
  name := "Heat"
  city := "Berlin"
  latitude := 5252 / 100
  longitude := 13405 / 1000
  conditionLogic := .and
  conditions := conditionRows [⟨.temperature, .gt, 30⟩]
  channels := [.email]
  cooldownMin := 60
  isActive := true
  locationBucket := 466

theorem shards_partition_locations_berlin :
    berlinRow ∈ [berlinRow] ↔
      ∃ index : Fin 3,
        berlinRow ∈ findActive [berlinRow] (shardBuckets (shard index)) :=
  (shards_partition_locations 3 (by decide) id [berlinRow]
    (by decide) (by decide +kernel)).2.1 berlinRow

end WeatherNotify.Watcher
