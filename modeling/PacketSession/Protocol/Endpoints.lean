import PacketSession.Connection.Address

/-!
# Settings of endpoints

Where a client connects to and how long it tries, and where a server listens and how many
sessions it keeps.
-/

namespace PacketSession

/-- How a client connects. -/
structure ClientSettings where
  /-- The address of the server. -/
  server : SocketAddress := .v4 ⟨127, 0, 0, 1⟩ 19999
  /-- How long it tries, in milliseconds. -/
  timeout : Nat := 10000
deriving DecidableEq

/-- How a server listens. -/
structure ServerSettings where
  /-- The address to listen at. -/
  address : SocketAddress := .v4 ⟨0, 0, 0, 0⟩ 19999
  /-- The most sessions at a time. -/
  maxSessions : Nat := 1000
deriving DecidableEq

end PacketSession
