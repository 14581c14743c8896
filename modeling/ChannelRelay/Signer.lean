import ChannelRelay.Failure
import ChannelRelay.Text.Blank

/-!
# Signers

The account that signs the transactions on a chain. Its address is any text that is
not blank, kept as it is.
-/

namespace ChannelRelay

structure Signer where
  address : String
  deriving DecidableEq, Repr

inductive SignerError where
  | emptySigner
  deriving DecidableEq, Repr

instance : Failure SignerError := ⟨fun _ => ["signer cannot be empty"]⟩

def Signer.parse (s : String) : Except SignerError Signer :=
  if Text.isBlankText s then .error .emptySigner else .ok ⟨s⟩

end ChannelRelay
