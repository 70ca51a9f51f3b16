import ProvingGround.Blueprint.Basic
import ProvingGround.Word

/-!
# Epochs

A network counts time in layers and epochs. Both lengths are arguments of its nodes.
-/

namespace ProvingGround

def layersPerEpochArg : String := "layers-per-epoch"

/-- The argument with the seconds of a layer. -/
def layerDurationArg : String := "layer-duration-sec"

/-- The length of an epoch of nodes of a group; its seconds stop at the greatest number of 64 bits.
-/
def NodeSpec.epoch (s : NodeSpec) : Except ConfigCause Duration := do
  let layers ← s.naturalArg layersPerEpochArg
  let seconds ← s.naturalArg layerDurationArg
  pure (.ofSeconds (min (layers * seconds) (Word.count 64 - 1)))

end ProvingGround
