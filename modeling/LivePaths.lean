import LivePaths.Command.Run
import LivePaths.Conf.Run
import LivePaths.Session.Step
import LivePaths.Path.Run
import LivePaths.Registry.Run
import LivePaths.Proofs.Path.SourceDemand
import LivePaths.Proofs.Path.LaunchDemand
import LivePaths.Proofs.Path.Order
import LivePaths.Proofs.Path.Recorder
import LivePaths.Proofs.Path.Audience
import LivePaths.Proofs.Path.SourceSessions
import LivePaths.Proofs.Path.Accounts
import LivePaths.Proofs.Path.Gathering
import LivePaths.Proofs.Path.Strangers
import LivePaths.Proofs.Path.Traffic
import LivePaths.Proofs.Registry.Turnover
import LivePaths.Proofs.Registry.Publish
import LivePaths.Proofs.Registry.Ledger
import LivePaths.Proofs.Registry.Vacancy
import LivePaths.Proofs.Registry.Attachment
import LivePaths.Proofs.Registry.Vouching
import LivePaths.Proofs.Registry.Restarts
import LivePaths.Proofs.Registry.Streams
import LivePaths.Proofs.Registry.Isolation
import LivePaths.Proofs.Registry.Rest
import LivePaths.Proofs.Registry.Passing
import LivePaths.Proofs.Registry.Captures
import LivePaths.Proofs.Session.Reach
import LivePaths.Proofs.Conf.Contents
import LivePaths.Proofs.Access.Decisions
import LivePaths.Proofs.Command.HookRuns
