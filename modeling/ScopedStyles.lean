import ScopedStyles.Host.NotifierTrial
import ScopedStyles.Host.Trial
import ScopedStyles.Json.Reader
import ScopedStyles.Proofs.Session.Serial
import ScopedStyles.Proofs.Session.Dropped
import ScopedStyles.Proofs.Session.Graph
import ScopedStyles.Proofs.Session.HotUpdates
import ScopedStyles.Proofs.Session.Inputs
import ScopedStyles.Proofs.Session.Restriction
import ScopedStyles.Proofs.Session.NonInterference
import ScopedStyles.Proofs.Session.Invisible
import ScopedStyles.Proofs.Session.Registered
import ScopedStyles.Proofs.Base64
import ScopedStyles.Proofs.ScopeImport
import ScopedStyles.Proofs.ScopeExpression
import ScopedStyles.Proofs.Session.OneToken
import ScopedStyles.Proofs.ClassSelector
import ScopedStyles.Proofs.Session.OwnStyles
import ScopedStyles.Proofs.Options
import ScopedStyles.Proofs.WireValues
import ScopedStyles.Proofs.Session.Exhausted
import ScopedStyles.Proofs.Anchoring
import ScopedStyles.Proofs.Words
import ScopedStyles.Proofs.DefaultPatterns
import ScopedStyles.Proofs.Filter
import ScopedStyles.Proofs.Session.DefaultCandidates
import ScopedStyles.Proofs.Session.Header
import ScopedStyles.Proofs.NotifierTrial
import ScopedStyles.Proofs.Session.ServerCalls
import ScopedStyles.Proofs.Writes
import ScopedStyles.Proofs.Loads
import ScopedStyles.Proofs.ValidOptions
import ScopedStyles.Proofs.Separators
import ScopedStyles.Proofs.Glob.Limits
