import WeatherNotify.Accounts.SubscriptionKeys
import WeatherNotify.Coding.Labels

/-!
# Endpoints of known push services

The body of a registration is refused unless the host of its endpoint is a
push service's or below one in the tree of names.  How a text is read as a URL
is a parameter.
-/

namespace WeatherNotify.PushSubscriptions

open WeatherNotify.Coding

def pushHosts : List String :=
  ["fcm.googleapis.com", "updates.push.services.mozilla.com",
    "push.services.mozilla.com", "notify.windows.com", "push.apple.com"]

/-- How texts are read as URLs. -/
structure Urls where
  /-- The check of `IsUrl`, restricted to `https`. -/
  isUrl : String → Bool
  /-- `new URL(value).hostname.toLowerCase()`, unless the constructor throws. -/
  hostname : String → Option String

/-- `host.endsWith("." + allowed)`. -/
def endsBelow (host allowed : String) : Bool :=
  ('.' :: allowed.toList).isSuffixOf host.toList

def isKnownPushHost (urls : Urls) (value : String) : Bool :=
  match urls.hostname value with
  | none => false
  | some host =>
      pushHosts.any fun allowed => host == allowed || endsBelow host allowed

/-- The message of `IsPushServiceEndpoint` for an endpoint it refuses. -/
def endpointRefusals (urls : Urls) (endpoint : String) : List String :=
  if isKnownPushHost urls endpoint then []
  else ["endpoint must be issued by a known push service"]

/-- The pipe lets the body through. -/
def Request.Valid (urls : Urls) : Request → Prop
  | .add _ dto =>
      urls.isUrl dto.endpoint = true ∧ endpointRefusals urls dto.endpoint = []
  | .remove _ _ => True

instance (urls : Urls) (request : Request) : Decidable (request.Valid urls) :=
  match request with
  | .add _ dto => inferInstanceAs (Decidable (urls.isUrl dto.endpoint = true ∧
      endpointRefusals urls dto.endpoint = []))
  | .remove _ _ => inferInstanceAs (Decidable True)

/-! ## What a known host is -/

def labels (host : String) : List (List Char) :=
  host.toList.splitOn '.'

/-- The endpoint is served by a push service. -/
def ServedByPushService (urls : Urls) (endpoint : String) : Prop :=
  ∃ host, urls.hostname endpoint = some host ∧
    ∃ allowed ∈ pushHosts, labels allowed <:+ labels host

theorem labels_suffix_iff {allowed host : String} :
    labels allowed <:+ labels host ↔
      host = allowed ∨ endsBelow host allowed = true := by
  unfold labels endsBelow
  rw [splitOn_suffix_iff, String.toList_inj, List.isSuffixOf_iff_suffix]

theorem isKnownPushHost_iff {urls : Urls} {value : String} :
    isKnownPushHost urls value = true ↔ ServedByPushService urls value := by
  unfold isKnownPushHost ServedByPushService
  cases found : urls.hostname value with
  | none => simp
  | some host =>
      simp only [List.any_eq_true, Bool.or_eq_true, beq_iff_eq,
        Option.some.injEq, exists_eq_left', labels_suffix_iff]

theorem servedByPushService_of_valid {urls : Urls} {userId : String}
    {dto : CreatePushSubscriptionDto}
    (valid : (Request.add userId dto).Valid urls) :
    ServedByPushService urls dto.endpoint := by
  have clean : endpointRefusals urls dto.endpoint = [] := valid.2
  unfold endpointRefusals at clean
  split at clean
  next known => exact isKnownPushHost_iff.mp known
  next => cases clean

end WeatherNotify.PushSubscriptions
