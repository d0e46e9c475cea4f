import Targeting.Audience.Evaluator
import Targeting.Proofs.Audience.Account
import Targeting.Proofs.Audience.Calls
import Targeting.Proofs.Audience.Inlining
import Targeting.Proofs.Audience.Learning
import Targeting.Proofs.Audience.Listed
import Targeting.Proofs.Audience.Rearrangement
import Targeting.Proofs.Backoff
import Targeting.Proofs.Cache.LastUse
import Targeting.Proofs.Cache.Upkeep
import Targeting.Proofs.Client.Race
import Targeting.Proofs.Client.Waiting
import Targeting.Proofs.Condition.Coherence
import Targeting.Proofs.Outbox.Admission
import Targeting.Proofs.Outbox.AtRest
import Targeting.Proofs.Outbox.LastWord
import Targeting.Proofs.Outbox.Pacing
import Targeting.Proofs.Outbox.Pixel
import Targeting.Proofs.Outbox.Prepared
import Targeting.Proofs.Outbox.Retrying
import Targeting.Proofs.Outbox.Waiting
import Targeting.Proofs.Segments.Epoch
import Targeting.Proofs.Segments.Outcome
import Targeting.Proofs.Segments.Question
import Targeting.Proofs.Segments.Scope
import Targeting.Proofs.Segments.Sharing
import Targeting.Proofs.Segments.Transparency
import Targeting.Proofs.Tree.Grammar
import Targeting.Proofs.Version.Monotone
import Targeting.Proofs.Version.Release
import Targeting.Proofs.Version.Scripts
import Targeting.Proofs.Version.Search
import Targeting.Proofs.Version.Suffix
import Targeting.Simulation.Session
