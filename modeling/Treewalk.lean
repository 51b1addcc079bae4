import Treewalk.Fetch
import Treewalk.Host.Workbench
import Treewalk.Main
import Treewalk.Proofs.Growth
import Treewalk.Proofs.Evolution
import Treewalk.Proofs.RunProperties
import Treewalk.Proofs.EvaluationProperties
import Treewalk.Proofs.Walk
import Treewalk.Proofs.Journal
import Treewalk.Proofs.StackDiscipline
import Treewalk.Proofs.Mediation
import Treewalk.Proofs.LexicalScope
import Treewalk.Proofs.Containment
import Treewalk.Proofs.EscapedClosures
import Treewalk.Proofs.Lifecycle
import Treewalk.Proofs.Parameters
import Treewalk.Proofs.Sequences
import Treewalk.Proofs.Destructuring
import Treewalk.Proofs.PatternAgreement
import Treewalk.Proofs.Realm
import Treewalk.Proofs.ElementaryComputations
import Treewalk.Proofs.TameComputations
import Treewalk.Proofs.MemberComputations
import Treewalk.Proofs.HostProperties
import Treewalk.Proofs.ConfinedHost
import Treewalk.Proofs.Lockstep
import Treewalk.Proofs.LockstepWalk
import Treewalk.Proofs.Restriction
import Treewalk.Proofs.Seclusion
import Treewalk.Proofs.History
import Treewalk.Proofs.Abort
import Treewalk.Proofs.Transparency
import Treewalk.Proofs.Spelling
import Treewalk.Proofs.Rounding
import Treewalk.Proofs.ShortestDecimal
import Treewalk.Proofs.JsonNumbers
import Treewalk.Proofs.JsonRoundTrip
import Treewalk.Proofs.MixedSpelling
import Treewalk.Proofs.NumberEquality
import Treewalk.Proofs.KeyEquality
import Treewalk.Proofs.GatheredTable
import Treewalk.Proofs.TableNames
import Treewalk.Proofs.TableLiteral
import Treewalk.Proofs.NotANumber
import Treewalk.Proofs.TableLookup
import Treewalk.Proofs.ParameterLabels
import Treewalk.Proofs.ParameterNames
import Treewalk.Proofs.ParameterViews
import Treewalk.Proofs.Provenance
import Treewalk.Proofs.PatternFailures
import Treewalk.Proofs.Escape
import Treewalk.Proofs.EscapeWalk
import Treewalk.Proofs.Attribution
import Treewalk.Proofs.AlikeComputations
import Treewalk.Proofs.AlikeOperators
import Treewalk.Proofs.AlikeMembers
import Treewalk.Proofs.AlikeHost
import Treewalk.Proofs.Twins
import Treewalk.Proofs.AlikeRuns
import Treewalk.Proofs.AlikeWalk
import Treewalk.Proofs.ClosedMachines
import Treewalk.Proofs.Spreading
import Treewalk.Proofs.SymbolProcs
import Treewalk.Proofs.Retries
import Treewalk.Proofs.PrintedTrees
import Treewalk.Proofs.SteadyHost
import Treewalk.Proofs.SteadyWalk
import Treewalk.Proofs.Forgetting
import Treewalk.Proofs.ScriptFiles
import Treewalk.Proofs.Dialogue
import Treewalk.Proofs.SharedFrames
import Treewalk.Proofs.FrameStacks
import Treewalk.Proofs.Settling
import Treewalk.Proofs.HaltingHost
import Treewalk.Proofs.SettlingWalk
