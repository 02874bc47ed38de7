import ConnectionPool.Failure
import ConnectionPool.Settings.Entry
import ConnectionPool.Tls.Pem

/-!
Contract: the certificates that an entry names.

Owns: `ServerEntry.tlsSettings`.

Does not own: whether the address of the entry needs them.
-/

namespace ConnectionPool.ServerEntry

/-- The settings for encryption of an entry that names certificate files, read from these files. -/
def tlsSettings (tree : FileTree) (entry : ServerEntry) : Except EntryError (Option TlsSettings) :=
  match entry.tls with
  | none => .ok none
  | some files =>
      match TlsSettings.load tree files.certPath files.keyPath files.handshakeMilliseconds.toNat with
      | .ok settings => .ok (some settings)
      | .error why => .error (entry.invalid (TransportError.tls why).message)

end ConnectionPool.ServerEntry
