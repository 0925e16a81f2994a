import WeatherNotify.Accounts.ConsumedOnce
import WeatherNotify.Accounts.Demotion
import WeatherNotify.Accounts.Denial
import WeatherNotify.Accounts.LastAdmin
import WeatherNotify.Accounts.OneTimeTokens
import WeatherNotify.Accounts.Operations
import WeatherNotify.Accounts.PushHosts
import WeatherNotify.Accounts.PushSubscriptions
import WeatherNotify.Accounts.SubscriptionKeys
import WeatherNotify.Accounts.SubscriptionTable
import WeatherNotify.Auth.Duration
import WeatherNotify.Auth.Lineage
import WeatherNotify.Auth.LoginBudget
import WeatherNotify.Auth.LoginLockout
import WeatherNotify.Auth.LoginWindow
import WeatherNotify.Auth.MassRevocation
import WeatherNotify.Auth.Moves
import WeatherNotify.Auth.Replay
import WeatherNotify.Auth.Sessions
import WeatherNotify.Auth.SharedKey
import WeatherNotify.Auth.Signatures
import WeatherNotify.Auth.SingleUse
import WeatherNotify.Auth.Sweep
import WeatherNotify.Auth.Unreplayed
import WeatherNotify.Broker.Overflow
import WeatherNotify.Broker.Topology
import WeatherNotify.Caching.ReadThrough
import WeatherNotify.Coding.Escapes
import WeatherNotify.Coding.Labels
import WeatherNotify.Common.Environment
import WeatherNotify.Common.Expiring
import WeatherNotify.Common.LockFencing
import WeatherNotify.Common.Pagination
import WeatherNotify.Common.RedisLock
import WeatherNotify.Common.RemoteCall
import WeatherNotify.Common.Throttler
import WeatherNotify.Common.ThrottlerBounds
import WeatherNotify.Common.TimedLock
import WeatherNotify.Contracts.Routing
import WeatherNotify.Domain.BucketBackfill
import WeatherNotify.Domain.CacheKeys
import WeatherNotify.Domain.ConditionEvaluator
import WeatherNotify.Domain.Location
import WeatherNotify.Domain.Proximity
import WeatherNotify.Domain.QuietHours
import WeatherNotify.Domain.TriggerStateMachine
import WeatherNotify.EndToEnd.Delivered
import WeatherNotify.EndToEnd.Pipeline
import WeatherNotify.Js.Async
import WeatherNotify.Js.Digits
import WeatherNotify.Js.Integers
import WeatherNotify.Js.Number
import WeatherNotify.Js.Pattern
import WeatherNotify.Js.Schema
import WeatherNotify.Js.Text
import WeatherNotify.Notifications.ClearedHistory
import WeatherNotify.Notifications.History
import WeatherNotify.Notifications.Paging
import WeatherNotify.Notifications.Sweep
import WeatherNotify.Notifications.SweepBounds
import WeatherNotify.Notifier.AtMostOnce
import WeatherNotify.Notifier.Consumer
import WeatherNotify.Notifier.DeliveryLog
import WeatherNotify.Notifier.Email
import WeatherNotify.Notifier.FanOut
import WeatherNotify.Notifier.FanOutRuns
import WeatherNotify.Notifier.Format
import WeatherNotify.Notifier.HandlerEffects
import WeatherNotify.Notifier.Ladder
import WeatherNotify.Notifier.Lease
import WeatherNotify.Notifier.LeaseExclusion
import WeatherNotify.Notifier.LeaseStatements
import WeatherNotify.Notifier.Lossless
import WeatherNotify.Notifier.NeverStuck
import WeatherNotify.Notifier.PushTargets
import WeatherNotify.Notifier.Recordability
import WeatherNotify.Notifier.Reopening
import WeatherNotify.Notifier.Shutdown
import WeatherNotify.Notifier.ShutdownSafety
import WeatherNotify.Notifier.Topology
import WeatherNotify.Notifier.Traffic
import WeatherNotify.Notifier.TrafficSafety
import WeatherNotify.Notifier.WebPush
import WeatherNotify.OpenMeteo.Answers
import WeatherNotify.OpenMeteo.Freshness
import WeatherNotify.OpenMeteo.Schemas
import WeatherNotify.OpenMeteo.Services
import WeatherNotify.Order.Arc
import WeatherNotify.Order.Arrivals
import WeatherNotify.Order.Pages
import WeatherNotify.PinnedCities.Limits
import WeatherNotify.PinnedCities.Ordering
import WeatherNotify.PinnedCities.Ownership
import WeatherNotify.PinnedCities.Requests
import WeatherNotify.Transition.Machine
import WeatherNotify.Transition.Opened
import WeatherNotify.Transition.Potential
import WeatherNotify.Transition.Quota
import WeatherNotify.Transition.Simulation
import WeatherNotify.Transition.Tally
import WeatherNotify.Transition.Windows
import WeatherNotify.Transition.Workers
import WeatherNotify.Triggers.BucketDrift
import WeatherNotify.Triggers.Limits
import WeatherNotify.Triggers.Ownership
import WeatherNotify.Triggers.Repository
import WeatherNotify.Triggers.Requests
import WeatherNotify.Triggers.TestCooldown
import WeatherNotify.Triggers.TestReservations
import WeatherNotify.Triggers.TestSend
import WeatherNotify.Triggers.Validation
import WeatherNotify.Users.QuietWindows
import WeatherNotify.Users.TelegramCursor
import WeatherNotify.Users.TelegramOnce
import WeatherNotify.Users.TelegramPoller
import WeatherNotify.Users.TelegramUpdates
import WeatherNotify.Users.UpdateProfile
import WeatherNotify.Watcher.ApiView
import WeatherNotify.Watcher.CycleOverlap
import WeatherNotify.Watcher.Deployment
import WeatherNotify.Watcher.Evaluation
import WeatherNotify.Watcher.EveryTrigger
import WeatherNotify.Watcher.Firing
import WeatherNotify.Watcher.FiringHistory
import WeatherNotify.Watcher.FiringSteps
import WeatherNotify.Watcher.Fleet
import WeatherNotify.Watcher.FleetFirings
import WeatherNotify.Watcher.Isolation
import WeatherNotify.Watcher.Observations
import WeatherNotify.Watcher.Outbox
import WeatherNotify.Watcher.OutboxOnce
import WeatherNotify.Watcher.OutboxOrder
import WeatherNotify.Watcher.OutboxSafety
import WeatherNotify.Watcher.OwnRequests
import WeatherNotify.Watcher.PollCycle
import WeatherNotify.Watcher.Pool
import WeatherNotify.Watcher.Schedule
import WeatherNotify.Watcher.Sharding
import WeatherNotify.Watcher.StagedEvents
import WeatherNotify.Watcher.TriggerHistory
import WeatherNotify.Watcher.WithinLimits
