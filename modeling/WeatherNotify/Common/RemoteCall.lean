/-!
# Calls to a server

How an awaited call ends.  A call that rejects may have reached the server all
the same: the connection can break before the answer is back.
-/

namespace WeatherNotify.Common

inductive RemoteCall where
  | confirmed
  | refused
  | unconfirmed
  deriving DecidableEq, Repr

namespace RemoteCall

/-- The promise resolves. -/
def resolves : RemoteCall → Bool
  | .confirmed => true
  | .refused | .unconfirmed => false

/-- The server has done what it was asked. -/
def reaches : RemoteCall → Bool
  | .confirmed | .unconfirmed => true
  | .refused => false

end RemoteCall

end WeatherNotify.Common
