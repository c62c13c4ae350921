import DomainDeploy.FileSystem.Tree
import DomainDeploy.Main
import DomainDeploy.Proofs.Absence
import DomainDeploy.Proofs.Bystander
import DomainDeploy.Proofs.Cleanup
import DomainDeploy.Proofs.Masking
import DomainDeploy.Rehearsal.Basic
import DomainDeploy.Trust.Scopes
import DomainDeploy.Proofs.Waiting
import DomainDeploy.Proofs.Course
import DomainDeploy.Proofs.Faults
import DomainDeploy.Proofs.Phases
import DomainDeploy.Proofs.Nesting
import DomainDeploy.Proofs.Foresight
import DomainDeploy.Proofs.Repetition
import DomainDeploy.Proofs.Advice
import DomainDeploy.Proofs.Encoding
import DomainDeploy.Proofs.Graph
import DomainDeploy.Proofs.Writing
import DomainDeploy.Proofs.Address
import DomainDeploy.Proofs.Standing
import DomainDeploy.Proofs.Service
import DomainDeploy.Proofs.Refinement
import DomainDeploy.Proofs.Closing
import DomainDeploy.Proofs.Inventory
import DomainDeploy.Proofs.Preparation
import DomainDeploy.Proofs.HttpBase
import DomainDeploy.Proofs.DomainNames
import DomainDeploy.Proofs.Hosts
import DomainDeploy.Proofs.IpAddresses
import DomainDeploy.Proofs.Punycode
import DomainDeploy.Proofs.Usability
import DomainDeploy.Proofs.Composition
import DomainDeploy.Proofs.CodeTables
import DomainDeploy.Proofs.Entering
import DomainDeploy.Proofs.Inquiry
import DomainDeploy.Proofs.Rounds
import DomainDeploy.Proofs.Running
import DomainDeploy.Proofs.Arguments
import DomainDeploy.Proofs.Trimming
import DomainDeploy.Proofs.Validation
import DomainDeploy.Proofs.ChildEnvironment
import DomainDeploy.Proofs.Secrets
import DomainDeploy.Proofs.Parts
import DomainDeploy.Proofs.ArtifactNames
import DomainDeploy.Proofs.References
import DomainDeploy.Proofs.Conversion
import DomainDeploy.Proofs.Containment
import DomainDeploy.Proofs.Layout
import DomainDeploy.Proofs.Display
import DomainDeploy.Proofs.Targets
import DomainDeploy.Proofs.Lines
import DomainDeploy.Proofs.Quotation
import DomainDeploy.Proofs.Numerals
import DomainDeploy.Proofs.Grammar
import DomainDeploy.Proofs.Shapes
import DomainDeploy.Proofs.Records
import DomainDeploy.Proofs.Assignments
import DomainDeploy.Proofs.ReadBack
import DomainDeploy.Proofs.Attachment
import DomainDeploy.Proofs.Roster
