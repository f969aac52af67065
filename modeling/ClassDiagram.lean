import ClassDiagram.Files.Convert
import ClassDiagram.Proofs.Trimming
import ClassDiagram.Proofs.ClassNames
import ClassDiagram.Proofs.Addresses
import ClassDiagram.Proofs.Acceptance
import ClassDiagram.Proofs.Edits
import ClassDiagram.Proofs.Membership
import ClassDiagram.Proofs.Members
import ClassDiagram.Proofs.Parameters
import ClassDiagram.Proofs.Mirroring
import ClassDiagram.Proofs.Json.Reader
import ClassDiagram.Proofs.Json.Decode
import ClassDiagram.Proofs.Utf8
import ClassDiagram.Proofs.Xml.Values
import ClassDiagram.Proofs.Xml.Attributes
import ClassDiagram.Proofs.Xml.Pieces
import ClassDiagram.Proofs.Xml.RoundTrip
import ClassDiagram.Proofs.Xml.OpenElements
import ClassDiagram.Proofs.Xml.Canonical
import ClassDiagram.Proofs.Xml.Truncation
import ClassDiagram.Proofs.Faults
import ClassDiagram.Proofs.Interfaces
import ClassDiagram.Proofs.Translation
import ClassDiagram.Proofs.Rearrangement
import ClassDiagram.Proofs.EntityIds
import ClassDiagram.Proofs.Types
import ClassDiagram.Proofs.Warnings
import ClassDiagram.Proofs.TypeNames
import ClassDiagram.Proofs.UserClass
import ClassDiagram.Proofs.Dependence
import ClassDiagram.Proofs.Merging
import ClassDiagram.Proofs.References
import ClassDiagram.Proofs.MemberTypes
import ClassDiagram.Proofs.Growth
import ClassDiagram.Proofs.Registration
import ClassDiagram.Proofs.NormalForm
import ClassDiagram.Proofs.Outline
import ClassDiagram.Proofs.Interruption
import ClassDiagram.Proofs.Files.Report
