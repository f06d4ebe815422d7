import SigCheck.Call.Binding
import SigCheck.Call.Fault
import SigCheck.Call.Inference
import SigCheck.CharName.Lookup
import SigCheck.Check.Class
import SigCheck.Check.Declaration
import SigCheck.Check.Expression
import SigCheck.Check.Function
import SigCheck.Check.Projection
import SigCheck.Check.State
import SigCheck.Check.Statement
import SigCheck.Command.Log
import SigCheck.Command.Options
import SigCheck.Command.Run
import SigCheck.Decimal.Digits
import SigCheck.Decimal.Shortest
import SigCheck.Diagnostic.Basic
import SigCheck.Diagnostic.Cause
import SigCheck.Files.Host
import SigCheck.Files.Path
import SigCheck.Files.Tree
import SigCheck.Files.Walk
import SigCheck.Glob.Pattern
import SigCheck.Grammar.Expression
import SigCheck.Grammar.Follow
import SigCheck.Grammar.Letters
import SigCheck.Grammar.Lexer
import SigCheck.Grammar.Parameters
import SigCheck.Grammar.Parse
import SigCheck.Grammar.Pattern
import SigCheck.Grammar.Program
import SigCheck.Grammar.Statement
import SigCheck.Grammar.StringValue
import SigCheck.Grammar.Token
import SigCheck.Grammar.Tree
import SigCheck.Main
import SigCheck.Proofs.Acceptance
import SigCheck.Proofs.AnnotationNames
import SigCheck.Proofs.AnnotationParts
import SigCheck.Proofs.BehindLead
import SigCheck.Proofs.BindingRule
import SigCheck.Proofs.Blame
import SigCheck.Proofs.CallNames
import SigCheck.Proofs.CallRenaming
import SigCheck.Proofs.CallView
import SigCheck.Proofs.CheckFrame
import SigCheck.Proofs.CheckSteps
import SigCheck.Proofs.Compatibility
import SigCheck.Proofs.Consistency
import SigCheck.Proofs.EditScripts
import SigCheck.Proofs.ErrorCap
import SigCheck.Proofs.ExactJoin
import SigCheck.Proofs.FormedTypes
import SigCheck.Proofs.Forwarding
import SigCheck.Proofs.FreshRenaming
import SigCheck.Proofs.Growth
import SigCheck.Proofs.Hygiene
import SigCheck.Proofs.Join
import SigCheck.Proofs.JoinFailure
import SigCheck.Proofs.JoinOrder
import SigCheck.Proofs.JoinSoundness
import SigCheck.Proofs.JoinSwap
import SigCheck.Proofs.KeywordMerge
import SigCheck.Proofs.LeadMerge
import SigCheck.Proofs.LeadingCallable
import SigCheck.Proofs.LogHistory
import SigCheck.Proofs.Meet
import SigCheck.Proofs.NameUse
import SigCheck.Proofs.NormalUnions
import SigCheck.Proofs.ParamList
import SigCheck.Proofs.ProgramNames
import SigCheck.Proofs.ProjectionPlaces
import SigCheck.Proofs.QuotedPlaces
import SigCheck.Proofs.Rejoin
import SigCheck.Proofs.RepeatedVariable
import SigCheck.Proofs.ResolvedSlots
import SigCheck.Proofs.Restoration
import SigCheck.Proofs.RestoredReports
import SigCheck.Proofs.SameShape
import SigCheck.Proofs.Solution
import SigCheck.Proofs.SolvedLists
import SigCheck.Proofs.SolvedVariables
import SigCheck.Proofs.SolvingRenaming
import SigCheck.Proofs.SoundState
import SigCheck.Proofs.SpecPlaces
import SigCheck.Proofs.SubtypeRenaming
import SigCheck.Proofs.SubtypeRules
import SigCheck.Proofs.TextPositions
import SigCheck.Proofs.TokenNames
import SigCheck.Proofs.TraitCalls
import SigCheck.Proofs.Transitivity
import SigCheck.Proofs.TreeNames
import SigCheck.Proofs.UnionSubtyping
import SigCheck.Proofs.Unpackings
import SigCheck.Proofs.VarRenaming
import SigCheck.Proofs.VariableRuns
import SigCheck.Proofs.Verbosity
import SigCheck.Report.FileReport
import SigCheck.Report.JsonValue
import SigCheck.Report.Record
import SigCheck.Report.Rendering
import SigCheck.Settings.Basic
import SigCheck.Settings.Stored
import SigCheck.Source.EditDistance
import SigCheck.Source.Location
import SigCheck.Symbol.Basic
import SigCheck.Table
import SigCheck.Toml.Printer
import SigCheck.Toml.Reader
import SigCheck.Toml.Scalar
import SigCheck.Toml.Tree
import SigCheck.Toml.Value
import SigCheck.Ty.Basic
import SigCheck.Ty.Renaming
import SigCheck.Ty.Substitution
import SigCheck.Ty.Subtyping
import SigCheck.Ty.Text
import SigCheck.Ty.Union
import SigCheck.Ty.Variables
import SigCheck.TypeExpr.Basic
import SigCheck.TypeExpr.Meaning
import SigCheck.TypeExpr.Resolution
import SigCheck.TypeExpr.UseSite
