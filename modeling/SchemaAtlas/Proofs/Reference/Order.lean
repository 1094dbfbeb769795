import SchemaAtlas.Proofs.Reference.Rearranged

namespace SchemaAtlas
namespace Depth

/-!
The order in which tables can be created.

Sorting compares tables by their depths only, so it is a way to rearrange their positions.  Counting
depths from the other end turns every comparison around; a sort in the other direction turns it
around once more, and so both sorts rearrange the positions in one and the same way.
-/

end Depth
end SchemaAtlas
