import RobotScribe.Session
import RobotScribe.Syntax.Encode
import RobotScribe.Syntax.Decode
import RobotScribe.Proofs.Computation
import RobotScribe.Proofs.Footprint
import RobotScribe.Proofs.DryCode
import RobotScribe.Proofs.Calls
import RobotScribe.Proofs.Sessions
import RobotScribe.Proofs.Silence
import RobotScribe.Proofs.Markers
import RobotScribe.Proofs.Rendering
import RobotScribe.Proofs.Translation
import RobotScribe.Proofs.Isolation
import RobotScribe.Proofs.Operations
import RobotScribe.Proofs.CallMarkers
import RobotScribe.Proofs.Transparency
import RobotScribe.Proofs.DryOutcome
import RobotScribe.Proofs.Fuel
import RobotScribe.Proofs.Blocks
import RobotScribe.Proofs.LeftOut
import RobotScribe.Proofs.DryTermination
import RobotScribe.Proofs.DryFaults
import RobotScribe.Proofs.PositionIndependence
import RobotScribe.Proofs.NoVoid
import RobotScribe.Proofs.VoidResults
import RobotScribe.Proofs.Exhaustion
import RobotScribe.Proofs.JsonText
import RobotScribe.Proofs.ProgramText
import RobotScribe.Proofs.CallSites
import RobotScribe.Proofs.Layout
import RobotScribe.Proofs.FullSinks
import RobotScribe.Proofs.Snapshots
import RobotScribe.Proofs.ArrayStores
import RobotScribe.Proofs.InputWords
import RobotScribe.Proofs.Unrolling
import RobotScribe.Proofs.Connectives
import RobotScribe.Proofs.Arithmetic
import RobotScribe.Proofs.ConditionFaults
import RobotScribe.Proofs.Preparation
import RobotScribe.Proofs.SpanCovers
import RobotScribe.Proofs.DeclarationTables
import RobotScribe.Proofs.Comparisons
import RobotScribe.Proofs.DisplayedValues
import RobotScribe.Proofs.StoredTexts
import RobotScribe.Proofs.Spelling
