import ArgScan.Main
import ArgScan.Proofs.Claims
import ArgScan.Proofs.Fitting
import ArgScan.Proofs.Reading
import ArgScan.Proofs.RoundTrip
import ArgScan.Proofs.Exhaustion
import ArgScan.Proofs.Joining
import ArgScan.Proofs.Order
import ArgScan.Proofs.Opacity
import ArgScan.Proofs.Naming
import ArgScan.Proofs.Rereading
import ArgScan.Proofs.Verbatim
import ArgScan.Proofs.Passes
import ArgScan.Proofs.PrintedTokens
import ArgScan.Proofs.Messages
import ArgScan.Proofs.Overlap
import ArgScan.Proofs.FacetNames
import ArgScan.Proofs.Positions
import ArgScan.Proofs.Drafts
import ArgScan.Proofs.Lookup
import ArgScan.Proofs.HandingOut
import ArgScan.Proofs.Setup
import ArgScan.Proofs.Delivery
