import SchemaAtlas.CommandLine.Run
import SchemaAtlas.Proofs.Keyed
import SchemaAtlas.Proofs.Reference.Order

namespace SchemaAtlas

/-!
The order of the tables in a report.

A run sorts the tables of its document from the deepest one on exactly where the depths were counted
from the end, by the option or by the settings.  So asking for the other end changes depths and
nothing of the order, whatever the run finds around it.
-/

namespace Source
namespace Content

end Content
end Source

namespace ParseReport

end ParseReport

namespace Document

/-- What a document says about a table, but for its depth. -/
def besidesDepth (table : Value) : Keyed Value :=
  table.entries.filter fun entry => entry.1 != "depth".toList

/-- The tables that a document shows, in order, but for their depths. -/
def tables (document : Value) : List (Keyed Value) :=
  (document.getD "entities" .null).items.map besidesDepth

end Document

namespace CommandLine

end CommandLine
end SchemaAtlas
