import MarkupTree.Main
import MarkupTree.Proofs.Attribute.Items
import MarkupTree.Proofs.Attribute.Settled
import MarkupTree.Proofs.Command.Run
import MarkupTree.Proofs.Conversion.Dump
import MarkupTree.Proofs.Conversion.Failing
import MarkupTree.Proofs.Conversion.Fidelity
import MarkupTree.Proofs.Conversion.Order
import MarkupTree.Proofs.Conversion.Relevance
import MarkupTree.Proofs.Conversion.RoundTrip
import MarkupTree.Proofs.Conversion.Rows
import MarkupTree.Proofs.Schema.DataName
import MarkupTree.Proofs.Schema.Merging
