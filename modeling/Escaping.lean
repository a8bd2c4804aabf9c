import Escaping.Audit.Attachment
import Escaping.Encoder.Default
import Escaping.Proofs.Codec.CharacterReference
import Escaping.Proofs.Codec.Scanning
import Escaping.Routine.Basic
import Escaping.Routine.Chain
import Escaping.Routine.ErrorDraft
import Escaping.Proofs.Codec.OctetRun
import Escaping.Proofs.Codec.StringLiteral
import Escaping.Proofs.Canonical.Passes
import Escaping.Proofs.Canonical.Stability
import Escaping.Proofs.Canonical.Layers
import Escaping.Proofs.Base64.Reading
import Escaping.Proofs.Canonical.Intrusion
import Escaping.Proofs.Codec.CharacterEscape
import Escaping.Proofs.Codec.RoundTrip
import Escaping.Proofs.Encoder.Reporting
import Escaping.Proofs.Codec.Escapes
import Escaping.Proofs.Codec.Generated
import Escaping.Proofs.Codec.Metacharacters
import Escaping.Proofs.Encoder.Confinement
import Escaping.Proofs.Text.Cutting
import Escaping.Proofs.Uri.Splitting
import Escaping.Proofs.Uri.Parts
import Escaping.Proofs.Uri.RoundTrip
import Escaping.Proofs.Encoder.UrlComponent
import Escaping.Proofs.Uri.Canonical
import Escaping.Proofs.Settings.Loading
import Escaping.Audit.Listener
import Escaping.Proofs.Encoder.Construction
import Escaping.Proofs.Audit.Conservation
import Escaping.Proofs.Audit.Attachment
import Escaping.Proofs.Encoder.Default
import Escaping.Proofs.Canonical.Turns
import Escaping.Proofs.Canonical.Ledger
import Escaping.Proofs.Canonical.Consistency
import Escaping.Proofs.Uri.Traversal
import Escaping.Proofs.Base64.RoundTrip
import Escaping.Proofs.Codec.StraySign
import Escaping.Proofs.Encoder.UrlRefusal
import Escaping.Proofs.Codec.ReferenceSyntax
import Escaping.Proofs.Codec.SharedEscapes
import Escaping.Proofs.Codec.UnitSequence
import Escaping.Proofs.Codec.Closure
import Escaping.Proofs.Encoder.ScalarText
import Escaping.Proofs.Codec.DirectoryValue
import Escaping.Proofs.Encoder.StringExpression
import Escaping.Proofs.Settings.Resolution
import Escaping.Proofs.Codec.Locality
import Escaping.Proofs.Audit.LogLine
