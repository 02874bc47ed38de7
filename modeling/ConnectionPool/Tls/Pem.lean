import ConnectionPool.Files.Tree
import ConnectionPool.Tls.Base64
import ConnectionPool.Tls.Der
import ConnectionPool.Tls.Settings

/-!
Contract: certificates and keys in text files.

A file holds sections between lines that begin and end them. A section with a known label holds bytes in base
64; everything outside sections, and sections with other labels, are passed over.

Owns:
- `Pem.sections`, the sections of a file up to the first fault;
- `TlsSettings.load`, which takes the certificates from one file and the key from another.

Does not own: what a certificate says. A certificate and a key are taken when they have the outline of one;
see `Tls.Der`.
-/

namespace ConnectionPool

/-- Why a file cannot be used. -/
inductive PemError where
  | file (cause : FileError)
  | base64 (cause : Base64Error)
  /-- A section that was begun with this label does not end. -/
  | missingEnd (label : Bytes)
  /-- A line begins a section but is not closed. -/
  | illegalStart (line : Bytes)
  | nothingFound
deriving DecidableEq, Repr

namespace PemError

def shownBytes (bytes : Bytes) : String :=
  "[" ++ ", ".intercalate (bytes.map fun byte => toString byte.toNat) ++ "]"

def message : PemError → String
  | .file cause => "I/O error: " ++ cause.message
  | .base64 cause => "base64 decode error: " ++ cause.text
  | .missingEnd label => "missing section end marker: " ++ shownBytes label
  | .illegalStart line => "illegal section start: " ++ shownBytes line
  | .nothingFound => "no items found"

end PemError

namespace Pem

/-- A section of a file. -/
structure Section where
  label : Bytes
  content : Bytes
deriving DecidableEq, Repr

def certificateLabel : Bytes := Bytes.ofText "CERTIFICATE"

/-- The labels under which keys are kept, with the outline of the keys under each. -/
def keyForms : List (Bytes × (Bytes → Bool)) :=
  [(Bytes.ofText "PRIVATE KEY", Der.isGeneralKey),
    (Bytes.ofText "RSA PRIVATE KEY", Der.isRsaKey),
    (Bytes.ofText "EC PRIVATE KEY", Der.isCurveKey)]

def keyLabels : List Bytes :=
  keyForms.map Prod.fst

/-- The labels of sections that are read; all others are passed over. -/
def knownLabels : List Bytes :=
  certificateLabel :: keyLabels ++
    ["PUBLIC KEY", "X509 CRL", "CERTIFICATE REQUEST", "ECHCONFIG"].map Bytes.ofText

/-- What opens and closes a line that begins a section. -/
def beginMark : Bytes := Bytes.ofText "-----BEGIN "

def endMark : Bytes := Bytes.ofText "-----END "

def dashes : Bytes := Bytes.ofText "-----"

/-- The lines of a file with the characters that end them; a carriage return ends a line too. -/
def lines : Bytes → List Bytes
  | [] => []
  | byte :: bytes =>
      if byte = 10 ∨ byte = 13 then
        [byte] :: lines bytes
      else
        match lines bytes with
        | [] => [[byte]]
        | line :: later => (byte :: line) :: later

/-- A dash, a blank or the end of a line, which may close a line that begins a section. -/
def closesLine (byte : UInt8) : Bool :=
  byte = 45 || byte = 32 || byte = 10 || byte = 13

/-- The label of a line that begins a section: exactly five dashes must close the line, between and behind
which only blanks may stand. -/
def label? (line : Bytes) : Option Bytes :=
  let reversed := (line.drop beginMark.length).reverse
  let front := (reversed.dropWhile closesLine).reverse
  let closing := (reversed.takeWhile closesLine).reverse
  if closing.count 45 = 5 then some (front ++ closing.takeWhile (· != 45)) else none

def endsSection (label line : Bytes) : Bool :=
  (endMark ++ label ++ dashes).isPrefixOf line

/-- The sections of the lines of a file up to the first fault, and that fault. `label` is that of the section
that was begun last, and `held` is what the lines since the last end of a section hold. A section that begins
inside another takes over what that one holds. -/
def scan (label : Option Bytes) (held : Bytes) : List Bytes → List Section × Option PemError
  | [] => ([], label.map PemError.missingEnd)
  | line :: later =>
      if beginMark.isPrefixOf line then
        match label? line with
        | some begun => scan (some begun) held later
        | none => ([], some (.illegalStart line))
      else
        match label with
        | none => scan none held later
        | some label =>
            if endsSection label line then
              if label ∈ knownLabels then
                match Base64.decode held with
                | .error cause => ([], some (.base64 cause))
                | .ok content =>
                    let found := scan none [] later
                    (⟨label, content⟩ :: found.1, found.2)
              else
                scan none [] later
            else
              scan (some label) (held ++ line) later

/-- The sections of a file up to the first fault, and that fault. -/
def sections (file : Bytes) : List Section × Option PemError :=
  scan none [] (lines file)

/-- All certificates of a file. Any fault in the file counts. -/
def certificates (file : Bytes) : Except PemError (List Bytes) :=
  match sections file with
  | (_, some cause) => .error cause
  | (found, none) =>
      .ok ((found.filter fun part => part.label == certificateLabel).map Section.content)

/-- The first section of a file that is labelled as a key. Only a fault in front of it counts. -/
def key (file : Bytes) : Except PemError Section :=
  match (sections file).1.find? fun part => part.label ∈ keyLabels with
  | some found => .ok found
  | none => .error ((sections file).2.getD .nothingFound)

/-- The section holds a key in the form of its label. -/
def holdsKey (part : Section) : Bool :=
  match keyForms.lookup part.label with
  | some hasForm => hasForm part.content
  | none => false

end Pem

namespace TlsSettings

/-- What a user is told when a file cannot be used. -/
def fileFault (path : String) (cause : PemError) : String :=
  path ++ ": " ++ cause.message

/-- Takes the certificates from one file and the key from another. Tells why they cannot be used. -/
def load (tree : FileTree) (certPath keyPath : String) (handshakeMilliseconds : Nat) :
    Except String TlsSettings :=
  match ((tree.read certPath).mapError PemError.file).bind Pem.certificates with
  | .error cause => .error (fileFault certPath cause)
  | .ok [] => .error (certPath ++ ": no certificates found")
  | .ok (certificate :: _) =>
      match ((tree.read keyPath).mapError PemError.file).bind Pem.key with
      | .error cause => .error (fileFault keyPath cause)
      | .ok key =>
          if Pem.holdsKey key then
            if Der.isCertificate certificate then
              .ok { handshakeMilliseconds }
            else
              .error "invalid peer certificate: BadEncoding"
          else
            .error "unexpected error: failed to parse private key as RSA, ECDSA, or EdDSA"

end TlsSettings

end ConnectionPool
