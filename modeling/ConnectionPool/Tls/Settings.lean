/-!
Contract: what an encrypted listener needs besides its endpoint.

Owns: the type `TlsSettings` and the bounds on a handshake.

Does not own: how the settings are read; see `Tls.Pem`.
-/

namespace ConnectionPool

/-- How long a handshake may take unless the settings say otherwise. -/
def defaultHandshakeMilliseconds : Nat := 5000

/-- How long the handshake of a connection may take that is only told there is no room. -/
def refusalHandshakeMilliseconds : Nat := 250

/-- A usable certificate chain and key were found; what remains is the bound on a handshake. -/
structure TlsSettings where
  handshakeMilliseconds : Nat := defaultHandshakeMilliseconds
deriving DecidableEq, Repr

end ConnectionPool
