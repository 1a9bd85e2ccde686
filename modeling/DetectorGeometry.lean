import DetectorGeometry.Model.Shipped
import DetectorGeometry.Scalar.Double
import DetectorGeometry.Files.Tree
import DetectorGeometry.Setup.Close
import DetectorGeometry.Setup.Gaussian
import DetectorGeometry.Setup.Load
import DetectorGeometry.Settings.Written
import DetectorGeometry.Table.Lemmas
import DetectorGeometry.Proofs.Geometry.Bounds
import DetectorGeometry.Proofs.Model.Specialization
import DetectorGeometry.Proofs.Model.Stacking
import DetectorGeometry.Proofs.Model.Extent
import DetectorGeometry.Proofs.Setup.Failure
import DetectorGeometry.Proofs.Setup.Bookkeeping
import DetectorGeometry.Proofs.Setup.Registrations
import DetectorGeometry.Proofs.Setup.Lifecycle
import DetectorGeometry.Proofs.Settings.RoundTrip
import DetectorGeometry.Proofs.Settings.Quoting
import DetectorGeometry.Proofs.Setup.Draws
import DetectorGeometry.Proofs.Setup.Field
import DetectorGeometry.Proofs.Setup.Interleaving
import DetectorGeometry.Proofs.Setup.Growth
import DetectorGeometry.Proofs.Setup.NamedTypes
import DetectorGeometry.Proofs.Setup.Loading
import DetectorGeometry.Proofs.Geometry.Frames
import DetectorGeometry.Proofs.Setup.UnusedSettings
import DetectorGeometry.Proofs.Files.Entry
import DetectorGeometry.Proofs.Scalar.NotANumber
import DetectorGeometry.Proofs.Settings.Quantity
import DetectorGeometry.Proofs.Setup.ModelSearch
import DetectorGeometry.Proofs.Space.Conventions
import DetectorGeometry.Proofs.Setup.Precision
import DetectorGeometry.Proofs.Geometry.Index
import DetectorGeometry.Proofs.Space.Growth
import DetectorGeometry.Proofs.Settings.Layout
