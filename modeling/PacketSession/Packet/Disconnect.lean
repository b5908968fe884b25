import PacketSession.Wire.Scalar

/-!
# The announcement of a close

A session that closes tells its peer why. The peer records the reason and hangs up without
an answer, so two sessions never send announcements back and forth.
-/

namespace PacketSession

/-- The packet that announces why a session closes. -/
structure Disconnect where
  /-- The reason, for people to read. -/
  reason : String
deriving DecidableEq

namespace Disconnect

/-- The fields of an announcement: the reason as a text. -/
def encode (d : Disconnect) : Bytes := Bytes.text d.reason

/-- Reads the fields of an announcement. -/
def decode : Decoder Disconnect := return ⟨← Decoder.text⟩

end Disconnect

end PacketSession
