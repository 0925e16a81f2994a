import Mathlib.Data.List.Basic

/-!
# The wire vocabulary of the broker

Exchange, queue and routing-key names shared by the services, together with
the enumerations that travel on the wire.  Every name is built from the
channel's routing word, so the names of two channels, of two retry stages and
of a retry stage and the dead queue never meet.
-/

namespace WeatherNotify.Contracts

/-- A delivery channel. -/
inductive Channel where
  | telegram
  | email
  | webPush
  deriving DecidableEq, Repr

/-- The name a channel carries in the database and in messages. -/
def Channel.name : Channel → String
  | .telegram => "TELEGRAM"
  | .email => "EMAIL"
  | .webPush => "WEB_PUSH"

/-- Delivery status of one event on one channel. -/
inductive NotifStatus where
  | pending
  | sent
  | failed
  deriving DecidableEq, Repr

def notificationsExchange : String := "notifications"

def dlxExchange : String := "notifications.dlx"

def channelRouting : Channel → String
  | .telegram => "telegram"
  | .email => "email"
  | .webPush => "push"

def routingKeyFor (channel : Channel) : String :=
  channelRouting channel ++ ".fired"

def queueNameFor (channel : Channel) : String :=
  "notifications." ++ channelRouting channel

/-- Routing key of retry stage `attempt`, counted from one. -/
def retryRoutingKeyFor (channel : Channel) (attempt : Nat) : String :=
  channelRouting channel ++ ".retry." ++ toString attempt

def retryQueueNameFor (channel : Channel) (attempt : Nat) : String :=
  queueNameFor channel ++ ".retry." ++ toString attempt

def deadRoutingKeyFor (channel : Channel) : String :=
  channelRouting channel ++ ".dead"

def deadQueueNameFor (channel : Channel) : String :=
  queueNameFor channel ++ ".dead"

/-! ## Names do not collide -/

theorem toString_nat_injective :
    Function.Injective (toString : Nat → String) := by
  intro left right equal
  have digits : Nat.toDigits 10 left = Nat.toDigits 10 right := by
    rw [← Nat.toList_repr, ← Nat.toList_repr]
    exact congrArg String.toList equal
  have decoded :=
    congrArg (fun digitChars => Nat.ofDigitChars 10 digitChars 0) digits
  simpa only [Nat.ofDigitChars_ten_toDigits] using decoded

/--
Two texts that continue routing words of different channels differ: the words
already differ in their first letter.
-/
theorem channel_eq_of_append_eq
    {left right : Channel} {leftTail rightTail : String}
    (equal :
      channelRouting left ++ leftTail = channelRouting right ++ rightTail) :
    left = right := by
  have letters := congrArg String.toList equal
  rw [String.toList_append, String.toList_append] at letters
  cases left <;> cases right <;>
    first
      | rfl
      | simp [channelRouting] at letters

theorem retryRoutingKeyFor_eq_iff
    {left right : Channel} {leftStage rightStage : Nat} :
    retryRoutingKeyFor left leftStage =
        retryRoutingKeyFor right rightStage ↔
      left = right ∧ leftStage = rightStage := by
  constructor
  · intro equal
    have sameChannel : left = right := by
      simp only [retryRoutingKeyFor, String.append_assoc] at equal
      exact channel_eq_of_append_eq equal
    subst sameChannel
    have letters := congrArg String.toList equal
    simp only [retryRoutingKeyFor, String.toList_append,
      List.append_cancel_left_eq] at letters
    exact ⟨rfl, toString_nat_injective (String.toList_inj.mp letters)⟩
  · rintro ⟨rfl, rfl⟩
    rfl

theorem retryRoutingKeyFor_ne_deadRoutingKeyFor
    (left right : Channel) (stage : Nat) :
    retryRoutingKeyFor left stage ≠ deadRoutingKeyFor right := by
  intro equal
  have sameChannel : left = right := by
    simp only [retryRoutingKeyFor, deadRoutingKeyFor,
      String.append_assoc] at equal
    exact channel_eq_of_append_eq equal
  subst sameChannel
  have letters := congrArg String.toList equal
  simp [retryRoutingKeyFor, deadRoutingKeyFor, String.toList_append]
    at letters

theorem deadRoutingKeyFor_injective :
    Function.Injective deadRoutingKeyFor := by
  intro left right equal
  exact channel_eq_of_append_eq equal

theorem routingKeyFor_injective :
    Function.Injective routingKeyFor := by
  intro left right equal
  exact channel_eq_of_append_eq equal

theorem dlxExchange_ne_notificationsExchange :
    dlxExchange ≠ notificationsExchange := by
  decide

/-! ## Queue names follow the routing keys -/

theorem retryQueueNameFor_eq_append (channel : Channel) (stage : Nat) :
    retryQueueNameFor channel stage =
      "notifications." ++ retryRoutingKeyFor channel stage := by
  simp only [retryQueueNameFor, retryRoutingKeyFor, queueNameFor,
    String.append_assoc]

theorem deadQueueNameFor_eq_append (channel : Channel) :
    deadQueueNameFor channel =
      "notifications." ++ deadRoutingKeyFor channel := by
  simp only [deadQueueNameFor, deadRoutingKeyFor, queueNameFor,
    String.append_assoc]

theorem append_left_cancel {head left right : String}
    (equal : head ++ left = head ++ right) : left = right := by
  have letters := congrArg String.toList equal
  rw [String.toList_append, String.toList_append,
    List.append_cancel_left_eq] at letters
  exact String.toList_inj.mp letters

theorem retryQueueNameFor_eq_iff
    {left right : Channel} {leftStage rightStage : Nat} :
    retryQueueNameFor left leftStage = retryQueueNameFor right rightStage ↔
      left = right ∧ leftStage = rightStage := by
  rw [retryQueueNameFor_eq_append, retryQueueNameFor_eq_append,
    ← retryRoutingKeyFor_eq_iff]
  exact ⟨append_left_cancel, fun equal => by rw [equal]⟩

theorem retryQueueNameFor_ne_deadQueueNameFor
    (left right : Channel) (stage : Nat) :
    retryQueueNameFor left stage ≠ deadQueueNameFor right := by
  rw [retryQueueNameFor_eq_append, deadQueueNameFor_eq_append]
  exact fun equal => retryRoutingKeyFor_ne_deadRoutingKeyFor left right
    stage (append_left_cancel equal)

theorem deadQueueNameFor_ne_queueNameFor (left right : Channel) :
    deadQueueNameFor left ≠ queueNameFor right := by
  cases left <;> cases right <;> decide

theorem retryQueueNameFor_ne_queueNameFor
    (left right : Channel) (stage : Nat) :
    retryQueueNameFor left stage ≠ queueNameFor right := by
  rw [retryQueueNameFor_eq_append, queueNameFor]
  intro equal
  have keys := append_left_cancel equal
  have sameChannel : left = right := by
    rw [retryRoutingKeyFor, String.append_assoc,
      ← String.append_empty (s := channelRouting right)] at keys
    exact channel_eq_of_append_eq keys
  subst sameChannel
  have letters := congrArg String.toList keys
  simp [retryRoutingKeyFor, String.toList_append] at letters

end WeatherNotify.Contracts
