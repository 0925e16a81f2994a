import WeatherNotify.Domain.QuietHours

/-!
# The decision about one trigger

The pure transition function of the watcher: given what a trigger remembers,
whether its conditions hold, the instant and the owner's quiet window, it says
whether to fire, to withhold the alert, to re-arm or to do nothing.
-/

namespace WeatherNotify.Domain

inductive TriggerState where
  | armed
  | fired
  deriving DecidableEq, Repr

inductive SuppressReason where
  | cooldown
  | quietHours
  deriving DecidableEq, Repr

inductive TriggerDecision where
  | fire
  | suppress (reason : SuppressReason)
  | rearm
  | noop
  deriving DecidableEq, Repr

/-- The trigger fields the decision depends on. -/
structure TriggerStateInput where
  state : TriggerState
  lastFiredAt : Option Int
  cooldownMin : Int
  deriving DecidableEq, Repr

/-- Local `HH:MM` bounds and the zone they are read in. -/
structure QuietHours where
  start : Option String
  finish : Option String
  timezone : Option String
  deriving DecidableEq, Repr

/-- Enough time has passed since the last delivery; blind to the state. -/
def isCooldownElapsed (trigger : TriggerStateInput) (now : Int) : Bool :=
  match trigger.lastFiredAt with
  | none => true
  | some lastFiredAt => trigger.cooldownMin * 60000 ≤ now - lastFiredAt

def isInQuietHours (zones : Zones) (window : QuietHours) (now : Int) : Bool :=
  isWithinQuietHours zones now window.start window.finish window.timezone

def decide (zones : Zones) (trigger : TriggerStateInput) (matched : Bool)
    (now : Int) (quietHours : Option QuietHours) : TriggerDecision :=
  if !matched then
    if trigger.state = .fired then .rearm else .noop
  else if !isCooldownElapsed trigger now then .suppress .cooldown
  else if quietHours.any fun window => isInQuietHours zones window now then
    .suppress .quietHours
  else .fire

/-! ## What each decision says -/

section Decisions

variable {zones : Zones} {trigger : TriggerStateInput} {matched : Bool}
variable {now : Int} {quietHours : Option QuietHours}

theorem decide_eq_fire_iff :
    decide zones trigger matched now quietHours = .fire ↔
      matched = true ∧ isCooldownElapsed trigger now = true ∧
        (quietHours.any fun window => isInQuietHours zones window now) =
          false := by
  unfold decide
  cases matched <;> cases isCooldownElapsed trigger now <;>
    cases quietHours.any fun window => isInQuietHours zones window now <;>
    simp <;> split <;> simp

theorem decide_eq_rearm_iff :
    decide zones trigger matched now quietHours = .rearm ↔
      matched = false ∧ trigger.state = .fired := by
  unfold decide
  cases matched <;> cases isCooldownElapsed trigger now <;>
    cases quietHours.any fun window => isInQuietHours zones window now <;>
    simp

end Decisions

end WeatherNotify.Domain
