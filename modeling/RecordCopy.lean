import RecordCopy.Text.Quoted
import RecordCopy.FieldPath
import RecordCopy.Settings
import RecordCopy.Typing
import RecordCopy.Position
import RecordCopy.History
import RecordCopy.Declaration
import RecordCopy.Derive.Struct
import RecordCopy.Proofs.Resolution
import RecordCopy.Proofs.Delivery
import RecordCopy.Proofs.OncePerPair
import RecordCopy.Proofs.Modes
import RecordCopy.Proofs.Frame
import RecordCopy.Proofs.Stages
import RecordCopy.Proofs.ModePlan
import RecordCopy.Proofs.Protection
import RecordCopy.Proofs.FreshAllocations
import RecordCopy.Proofs.Noninterference
import RecordCopy.Proofs.Idempotence
import RecordCopy.Proofs.WildcardRelay
import RecordCopy.Proofs.KeptFailures
import RecordCopy.Proofs.Names
import RecordCopy.Proofs.OwnTargets
import RecordCopy.Proofs.DerivedTargets
import RecordCopy.Proofs.Atomicity
import RecordCopy.Proofs.Containers
import RecordCopy.Proofs.LayerFit
import RecordCopy.Proofs.LeftmostProblem
import RecordCopy.Proofs.Lens
import RecordCopy.Proofs.SupertypeCopy
import RecordCopy.Proofs.EveryMapping
import RecordCopy.Proofs.AnyOrder
import RecordCopy.Proofs.SameNames
import RecordCopy.Proofs.ChosenCandidate
import RecordCopy.Proofs.Narrowing
import RecordCopy.Proofs.DerivedAccess
import RecordCopy.Proofs.NestingDepth
import RecordCopy.Proofs.PathText
import RecordCopy.Proofs.WrittenPaths
import RecordCopy.Proofs.CompileLog
import RecordCopy.Proofs.TypedForms
import RecordCopy.Proofs.StructSettings
