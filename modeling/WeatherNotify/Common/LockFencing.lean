import Mathlib.Data.List.Induction
import WeatherNotify.Common.TimedLock

/-!
# The lock is exclusive and fenced

What a client is told about its token is true of the whole time since it
acquired it: the key has stored the token continuously, and it is given to
another token only after a release under the token or after the expiry that the
acquire or the last successful renewal set.
-/

namespace WeatherNotify.Common.TimedLock

open WeatherNotify.Transition

universe u

variable {Client : Type u} {Token : Type}

/-! ## The lock without time -/

section Refinement

variable [DecidableEq Token] (key : Key Token) (now : Int) (token : Token)

/-- At its instant an acquire is the acquire of the lock without time. -/
theorem acquireLock_refines {ttlSec : Int} (positive : 0 < ttlSec) :
    LockKey.acquireLock (Entry.read key now) token =
      (decide ((acquireLock key now token ttlSec).1.toOption =
          some (some token)),
        Entry.read (acquireLock key now token ttlSec).2 now) := by
  unfold acquireLock LockKey.acquireLock
  rw [if_neg (by omega)]
  cases held : Entry.read key now with
  | none =>
      have live : now < now + ttlSec * 1000 := by omega
      simp [Entry.read, live, Except.toOption]
  | some holder => simp [held, Except.toOption]

theorem extendLock_refines (ttlSec : Int) :
    (extendLock key now token ttlSec).1 =
      LockKey.extendLock (Entry.read key now) token := by
  unfold extendLock LockKey.extendLock
  split <;> simp_all

theorem releaseLock_refines :
    Entry.read (releaseLock key now token).2 now =
      LockKey.releaseLock (Entry.read key now) token := by
  unfold releaseLock LockKey.releaseLock
  split <;> simp_all [Entry.read]

end Refinement

/-! ## What is stored after a step -/

/-- A token is stored after a step only if it was before or was just acquired. -/
theorem stored_of_stepped {state next : State Client Token}
    {label : Label Client Token} {record : List (Event Client Token)}
    {token : Token} (stepped : Stepped state label record next)
    (stored : next.stored = some token) :
    state.stored = some token ∨
      ∃ client deadline, record = [.acquired client token deadline] := by
  cases stepped with
  | tick elapsed =>
      rcases Entry.read_eq_some_iff.mp stored with ⟨deadline, entry, live⟩
      refine Or.inl (Entry.read_eq_some_iff.mpr ⟨deadline, entry, ?_⟩)
      change state.clock + elapsed < deadline at live
      omega
  | evict expired => cases stored
  | acquired fresh free =>
      rcases Entry.read_eq_some_iff.mp stored with ⟨deadline, entry, -⟩
      cases entry
      exact Or.inr ⟨_, _, rfl⟩
  | refused fresh => exact Or.inl stored
  | @extended client other ttlSec presents own =>
      rcases Entry.read_eq_some_iff.mp stored with ⟨deadline, entry, -⟩
      replace entry : (if ttlSec ≤ 0 then none
        else some ⟨other, state.clock + ttlSec * 1000⟩) =
          some (⟨token, deadline⟩ : Entry Token) := entry
      split at entry
      · cases entry
      · cases entry
        exact Or.inl own
  | released presents own => cases stored
  | foreign called other => exact Or.inl stored

variable [DecidableEq Token]

/-- Only the stored token is answered true. -/
theorem stored_of_answer {state : State Client Token}
    {label : Label Client Token} {token : Token}
    (presented : label.presented = some token)
    (answered : label.answer state = true) : state.stored = some token := by
  cases label with
  | extendLock client other ttlSec =>
      cases presented
      by_contra foreign
      rw [State.stored] at foreign
      rw [Label.answer, TimedLock.extendLock, if_neg foreign] at answered
      cases answered
  | releaseLock client other =>
      cases presented
      by_contra foreign
      rw [State.stored] at foreign
      rw [Label.answer, TimedLock.releaseLock, if_neg foreign] at answered
      cases answered
  | _ => cases presented

/-! ## Where an acquired token is -/

theorem expiry_append (token : Token) (deadline : Int)
    (first second : List (Event Client Token)) :
    expiry token deadline (first ++ second) =
      expiry token (expiry token deadline first) second :=
  List.foldl_append

/--
Where an acquired token is: under the key with the expiry last set for it, or
gone for good after its release or its expiry.
-/
structure Tracked (owner : Client) (token : Token) (deadline : Int)
    (record : List (Event Client Token)) (state : State Client Token) :
    Prop where
  generated : token ∈ state.generated
  issued : (owner, token) ∈ state.issued
  place : state.key = some ⟨token, expiry token deadline record⟩ ∨
    ((.released owner token ∈ record ∨
      expiry token deadline record ≤ state.clock) ∧
      ∀ entry ∈ state.key, entry.value ≠ token)

/-- A token that is still under the key although nobody reads it has expired. -/
theorem Tracked.expired {owner : Client} {token : Token} {deadline : Int}
    {record : List (Event Client Token)} {state : State Client Token}
    (tracked : Tracked owner token deadline record state)
    (unread : state.stored ≠ some token) :
    .released owner token ∈ record ∨
      expiry token deadline record ≤ state.clock := by
  rcases tracked.place with held | ⟨gone, -⟩
  · right
    by_contra live
    refine unread (Entry.read_eq_some_iff.mpr ⟨_, held, ?_⟩)
    omega
  · exact gone

variable [DecidableEq Client]

theorem tracked_step {owner : Client} {token : Token} {deadline : Int}
    (taken : Taken (State Client Token) (Label Client Token))
    (record : List (Event Client Token))
    (stepped : (machine Client Token).step taken.source taken.label =
      some taken.target)
    (tracked : Tracked owner token deadline record taken.source) :
    Tracked owner token deadline (record ++ events taken) taken.target := by
  rcases taken with ⟨source, label, target⟩
  replace tracked : Tracked owner token deadline record source := tracked
  have effect : Stepped source label (events ⟨source, label, target⟩) target :=
    stepped_of_step stepped
  generalize events ⟨source, label, target⟩ = added at effect ⊢
  have place := tracked.place
  have elsewhere : ∀ other, source.stored = some other → other ≠ token →
      (.released owner token ∈ record ∨
        expiry token deadline record ≤ source.clock) := by
    intro other stored different
    refine tracked.expired fun same => different ?_
    rw [stored] at same
    exact Option.some.inj same
  cases effect with
  | tick elapsed =>
      rw [List.append_nil]
      refine ⟨tracked.generated, tracked.issued, place.imp_right ?_⟩
      rintro ⟨released | expired, gone⟩
      · exact ⟨Or.inl released, gone⟩
      · refine ⟨Or.inr ?_, gone⟩
        change expiry token deadline record ≤ source.clock + elapsed
        omega
  | evict expired =>
      rw [List.append_nil]
      have unread : source.stored ≠ some token := by
        rw [expired]
        exact Option.some_ne_none token |>.symm
      exact ⟨tracked.generated, tracked.issued,
        Or.inr ⟨tracked.expired unread, fun entry member => by cases member⟩⟩
  | @acquired client other ttlSec fresh free =>
      have unread : source.stored ≠ some token := by
        rw [free]
        exact Option.some_ne_none token |>.symm
      have different : other ≠ token := by
        rintro rfl
        exact fresh tracked.generated
      refine ⟨List.mem_cons_of_mem _ tracked.generated,
        List.mem_cons_of_mem _ tracked.issued, Or.inr ⟨?_, ?_⟩⟩
      · rw [expiry_append]
        exact (tracked.expired unread).imp_left (List.mem_append_left _)
      · rintro entry ⟨⟩
        exact different
  | refused fresh =>
      rw [List.append_nil]
      exact ⟨List.mem_cons_of_mem _ tracked.generated, tracked.issued, place⟩
  | @extended client other ttlSec presents own =>
      refine ⟨tracked.generated, tracked.issued, ?_⟩
      rw [expiry_append]
      by_cases same : other = token
      · -- the renewal moves the expiry
        subst same
        have renewed : expiry other (expiry other deadline record)
            [Event.extended client other (source.clock + ttlSec * 1000)] =
              source.clock + ttlSec * 1000 := if_pos rfl
        rw [renewed]
        by_cases ended : ttlSec ≤ 0
        · refine Or.inr ⟨Or.inr ?_, ?_⟩
          · change source.clock + ttlSec * 1000 ≤ source.clock
            omega
          · simp only [if_pos ended]
            exact fun entry member => by cases member
        · refine Or.inl ?_
          simp only [if_neg ended]
      · have kept : expiry token (expiry token deadline record)
            [Event.extended client other (source.clock + ttlSec * 1000)] =
              expiry token deadline record := if_neg same
        rw [kept]
        refine Or.inr ⟨(elsewhere other own same).imp_left
          (List.mem_append_left _), ?_⟩
        intro entry member
        simp only [Option.mem_def] at member
        split at member
        · cases member
        · cases member
          exact same
  | @released client other presents own =>
      refine ⟨tracked.generated, tracked.issued, Or.inr ⟨?_, ?_⟩⟩
      · by_cases same : other = token
        · subst same
          have holder : owner = client :=
            presents (owner, other) tracked.issued rfl
          subst holder
          exact Or.inl (List.mem_append_right _ (List.mem_singleton_self _))
        · rw [expiry_append]
          exact (elsewhere other own same).imp_left (List.mem_append_left _)
      · exact fun entry member => by cases member
  | foreign called other =>
      rw [List.append_nil]
      exact tracked

/-! ## Stored without a gap -/

/-- The run acquired the token and has stored it in every state since. -/
def StoredSinceAcquire (start : Int) (labels : List (Label Client Token))
    (token : Token) : Prop :=
  ∃ early late label, labels = early ++ label :: late ∧
    (∃ source next client deadline,
      (machine Client Token).run (.empty start) early = some source ∧
        step source label = some next ∧
        events ⟨source, label, next⟩ = [.acquired client token deadline]) ∧
    ∀ first second state, late = first ++ second →
      (machine Client Token).run (.empty start)
        (early ++ label :: first) = some state →
      state.stored = some token

theorem storedSinceAcquire_of_stored {start : Int}
    {labels : List (Label Client Token)} {state : State Client Token}
    {token : Token}
    (reached : (machine Client Token).run (.empty start) labels = some state)
    (stored : state.stored = some token) :
    StoredSinceAcquire start labels token := by
  induction labels using List.reverseRecOn generalizing state with
  | nil =>
      cases reached
      cases stored
  | append_singleton labels label induction =>
      have whole := reached
      rw [Machine.run_append] at reached
      rcases Option.bind_eq_some_iff.mp reached with ⟨source, before, last⟩
      rcases Option.bind_eq_some_iff.mp last with ⟨next, stepped, same⟩
      cases same
      replace stepped : step source label = some state := stepped
      rcases stored_of_stepped (stepped_of_step stepped) stored with
        earlier | ⟨client, deadline, acquired⟩
      · rcases induction before earlier with
          ⟨early, late, acquire, rfl, acquired, since⟩
        refine ⟨early, late ++ [label], acquire, by simp, acquired, ?_⟩
        intro first second middle split run
        rcases List.eq_nil_or_concat second with rfl | ⟨rest, final, rfl⟩
        · rw [List.append_nil] at split
          rw [← split] at run
          have same : some middle = some state := by
            rw [← run, ← whole, List.append_assoc, List.cons_append]
          cases same
          exact stored
        · rw [List.concat_eq_append, ← List.append_assoc] at split
          exact since first rest middle (List.append_inj_left' split rfl) run
      · refine ⟨labels, [], label, rfl,
          ⟨source, state, client, deadline, before, stepped, acquired⟩, ?_⟩
        intro first second middle split run
        rw [(List.append_eq_nil_iff.mp split.symm).1] at run
        have same : some middle = some state := run.symm.trans whole
        cases same
        exact stored

/-! ## The lock over every run -/

/-- A call with another token than the stored one leaves the entry. -/
theorem key_of_foreign_call {state next : State Client Token}
    {label : Label Client Token} {token : Token}
    (stepped : step state label = some next)
    (presented : label.presented = some token)
    (foreign : state.stored ≠ some token) : next.key = state.key := by
  have effect : Stepped state label (events ⟨state, label, next⟩) next :=
    stepped_of_step stepped
  generalize events ⟨state, label, next⟩ = record at effect
  cases effect with
  | extended presents own =>
      cases presented
      exact absurd own foreign
  | released presents own =>
      cases presented
      exact absurd own foreign
  | foreign called other => rfl
  | _ => cases presented

/-- A successful acquire found the key free and stored its token. -/
theorem acquired_of_events {state next : State Client Token}
    {label : Label Client Token} {client : Client} {token : Token}
    {deadline : Int} (stepped : step state label = some next)
    (acquired : events ⟨state, label, next⟩ =
      [.acquired client token deadline]) :
    state.stored = none ∧ next.key = some ⟨token, deadline⟩ ∧
      token ∈ next.generated ∧ (client, token) ∈ next.issued := by
  have effect := stepped_of_step stepped
  rw [acquired] at effect
  cases effect with
  | acquired fresh free =>
      exact ⟨free, rfl, List.mem_cons_self, List.mem_cons_self⟩

/--
At most one token is stored; a call is answered true only for a token stored
ever since its acquire; a foreign call changes nothing; and a later acquire
succeeds only after the earlier holder released or its last expiry passed.
-/
theorem lock_exclusive_and_fenced (start : Int) :
    (∀ labels final left right,
        (machine Client Token).run (.empty start) labels = some final →
        final.stored = some left → final.stored = some right →
          left = right) ∧
      (∀ labels (label : Label Client Token) source token,
        (machine Client Token).run (.empty start) labels = some source →
        label.presented = some token → label.answer source = true →
          StoredSinceAcquire start labels token) ∧
      (∀ labels (label : Label Client Token) source next token,
        (machine Client Token).run (.empty start) labels = some source →
        step source label = some next → label.presented = some token →
        source.stored ≠ some token →
          next.key = source.key ∧ label.answer source = false) ∧
      ∀ labels first middle second source holder last next owner token
          deadline client other laterDeadline,
        (machine Client Token).run (.empty start) labels = some source →
        step source first = some holder →
        events ⟨source, first, holder⟩ = [.acquired owner token deadline] →
        (machine Client Token).run holder middle = some last →
        step last second = some next →
        events ⟨last, second, next⟩ =
          [.acquired client other laterDeadline] →
          .released owner token ∈
              (machine Client Token).history events holder middle ∨
            expiry token deadline
                ((machine Client Token).history events holder middle) ≤
              last.clock := by
  refine ⟨?_, ?_, ?_, ?_⟩
  · intro labels final left right _ atLeft atRight
    exact Option.some.inj (atLeft.symm.trans atRight)
  · intro labels label source token reached presented answered
    exact storedSinceAcquire_of_stored reached
      (stored_of_answer presented answered)
  · intro labels label source next token _ stepped presented foreign
    refine ⟨key_of_foreign_call stepped presented foreign, ?_⟩
    by_contra answered
    rw [Bool.not_eq_false] at answered
    exact foreign (stored_of_answer presented answered)
  · intro labels first middle second source holder last next owner token
      deadline client other laterDeadline _ taken acquired worked again
      reacquired
    rcases acquired_of_events taken acquired with ⟨-, key, generated, issued⟩
    have tracked : Tracked owner token deadline [] holder :=
      ⟨generated, issued, Or.inl key⟩
    have lasting := Machine.history_invariant (Tracked owner token deadline)
      (fun step record stepped _ => tracked_step step record stepped) tracked
      (fun _ _ => trivial) worked
    rw [List.nil_append] at lasting
    apply lasting.expired
    rw [(acquired_of_events again reacquired).1]
    exact (Option.some_ne_none token).symm

/-- One client lets its lock run out, and the next one takes it. -/
def handover (holder : Client) : List (Label Client Nat) :=
  [.tick 5, .extendLock holder 7 30, .tick 40000]

theorem lock_exclusive_and_fenced_handover :
    ∃ source holder last next : State (Fin 2) Nat,
      (machine (Fin 2) Nat).run (.empty 0) [] = some source ∧
        step source (.acquireLock 0 7 30) = some holder ∧
        (machine (Fin 2) Nat).run holder (handover 0) = some last ∧
        step last (.acquireLock 1 8 30) = some next ∧
        (.released 0 7 ∈
            (machine (Fin 2) Nat).history events holder (handover 0) ∨
          expiry 7 30000 ((machine (Fin 2) Nat).history events holder
            (handover 0)) ≤ last.clock) := by
  refine ⟨_, _, _, _, rfl, rfl, rfl, rfl, ?_⟩
  exact (lock_exclusive_and_fenced 0).2.2.2 [] (.acquireLock 0 7 30)
    (handover 0)
    (.acquireLock 1 8 30) _ _ _ _ 0 7 30000 1 8 70005 rfl rfl rfl rfl rfl rfl

end WeatherNotify.Common.TimedLock
