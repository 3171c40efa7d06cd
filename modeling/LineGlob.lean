import LineGlob.Files.Tree
import LineGlob.Main
import LineGlob.Proofs.Command.Inputs
import LineGlob.Proofs.Command.Settings
import LineGlob.Proofs.Command.Stages
import LineGlob.Proofs.Filter.Counting
import LineGlob.Proofs.Filter.Failure
import LineGlob.Proofs.Filter.Partition
import LineGlob.Proofs.Filter.Selection
import LineGlob.Proofs.Filter.Status
import LineGlob.Proofs.Pattern.Arrangement
import LineGlob.Proofs.Pattern.Boundary
import LineGlob.Proofs.Pattern.Concatenation
import LineGlob.Proofs.Pattern.Quoting
import LineGlob.Proofs.Pattern.Recasing
import LineGlob.Proofs.Pattern.Search
import LineGlob.Proofs.Pattern.SetLanguage
import LineGlob.Proofs.Pattern.Order
import LineGlob.Proofs.Pattern.Occurrence
import LineGlob.Proofs.Pattern.Slicing
