/-
# Evidence.Artifacts — artifact paths, metadata and atomic writes

What both stages of the writer and the verifier share: `normalizeRelativePath` and
`validateArtifactPath` decide which names an artifact may have, `manifestEntry` is
the record of one artifact in a manifest, `atomicWrite` puts a file below the
bundle root. A bundle is a `FileTree`; its paths are kept in the case in which the
host compares names (`Host.key`).
-/
import Aegis.Lib.FileTree
import Aegis.Lib.Guarded
import Aegis.Lib.JsonParse
import Mathlib.Data.List.DropRight

namespace Aegis.Evidence

open Aegis.Lib
open Aegis.Lib.Guarded

set_option autoImplicit false

/-- What the writer and the verifier raise. -/
inductive EvidenceFault
  | evidenceError (text : String)
  | integrityError (text : String)
  | circularError (text : String)
  | canonicalizationError (text : String)
  | unsafePathError (text : String)
  | osError
  | valueError
  | attributeError
  deriving DecidableEq, Repr

def schemaVersion : String := "1.0.0-wp2b1"

def inputManifestName : String := "input_evidence_manifest.json"

def finalManifestName : String := "final_evidence_manifest.json"

def finalReportName : String := "final_report.json"

def markerName : String := "finalization_marker.json"

/-- The documents of a bundle. -/
def documentNames : List String := [inputManifestName, finalManifestName, finalReportName, markerName]

/-- What a date text means, and when evidence of that date expires. -/
inductive Expiration
  | notIso
  | naive
  /-- A day count past the last date. -/
  | overflow
  | at_ (expires : String)

/-- The host: its hash, its file names, its date arithmetic and how it prints values. -/
structure Host (F : Type) where
  sha256Hex : ByteArray → String
  sha256Hex_nonempty : ∀ content, sha256Hex content ≠ ""
  /-- `os.path.normcase` of one name. -/
  normcase : String → String
  documents_apart : (documentNames.map normcase).Nodup
  /-- `_POSIX_EVIDENCE_ATOMIC`. -/
  posixEvidenceAtomic : Bool
  /-- Whether the file system takes a file at the path. -/
  writable : List String → Bool
  /-- The date `days` after a date text. -/
  expiration : String → Nat → Expiration
  repr : Json F → String
  str : Json F → String
  decodeError : ByteArray → String

/-! ## Paths -/

def windowsDeviceNames : List String :=
  ["con", "prn", "aux", "nul", "com1", "com2", "com3", "com4", "com5", "com6", "com7", "com8",
    "com9", "lpt1", "lpt2", "lpt3", "lpt4", "lpt5", "lpt6", "lpt7", "lpt8", "lpt9"]

/-- `path.replace("\\", "/")`. -/
def forwardSlashes (path : String) : String :=
  String.ofList (path.toList.map fun c => if c = backslash then '/' else c)

/-- `path.split("/")`. -/
def segments (path : String) : List String :=
  (path.toList.splitOn '/').map String.ofList

/-- The part of a name before its first point, in lower case. -/
def stem (part : String) : String :=
  String.ofList ((part.toList.takeWhile (· ≠ '.')).map Char.toLower)

section Host

variable {F : Type} (host : Host F)

/-- The checks of one part of a path. -/
def checkPart (relativePath : Json F) (part : String) : Except String Unit := do
  refuse (part = "" ∨ part = "." ∨ part = "..") s!"path traversal refused: {host.repr relativePath}"
  refuse (':' ∈ part.toList)
    s!"drive letter or alternate-data-stream marker refused: {host.repr relativePath}"
  refuse (part.toList ≠ part.toList.rdropWhile fun c => c = ' ' || c = '.')
    s!"trailing dot/space segment refused: {host.repr relativePath}"
  refuse (stem part ∈ windowsDeviceNames)
    s!"Windows reserved device name refused: {host.repr relativePath}"

/-- `normalize_relative_path`; the error is the text of the `UnsafePathError`. -/
def normalizeRelativePath : Json F → Except String String
  | .str path =>
      if path = "" then .error s!"invalid path: {host.repr (.str path)}"
      else if (forwardSlashes path).toList.head? = some '/' then
        .error s!"absolute path refused: {host.repr (.str path)}"
      else do
        forM (segments (forwardSlashes path)) (checkPart host (.str path))
        pure (forwardSlashes path)
  | value => .error s!"invalid path: {host.repr value}"

namespace Host

/-- The names on a path, in the case in which the host compares them. -/
def key (path : String) : List String := (segments path).map host.normcase

end Host

/-- The names that no artifact may have. -/
def reservedArtifactNames (allowFinalReport : Bool) : List String :=
  [inputManifestName, finalManifestName, markerName] ++
    (if allowFinalReport then [] else [finalReportName])

/-- `_validate_artifact_path`. -/
def validateArtifactPath (relativePath : Json F) (allowFinalReport : Bool := false) :
    Except EvidenceFault String :=
  match normalizeRelativePath host relativePath with
  | .error text => .error (.evidenceError text)
  | .ok normalized =>
      if host.key normalized ∈ (reservedArtifactNames allowFinalReport).map host.key then
        .error (.evidenceError s!"artifact path {host.repr relativePath} is reserved")
      else .ok normalized

end Host

/-! ## Metadata -/

inductive Sensitivity
  | publicSafe
  | internal
  | confidential
  | synthetic
  deriving DecidableEq, Repr

def Sensitivity.value : Sensitivity → String
  | .publicSafe => "PUBLIC_SAFE"
  | .internal => "INTERNAL"
  | .confidential => "CONFIDENTIAL"
  | .synthetic => "SYNTHETIC"

inductive RedactionState
  | sanitizedByConstruction
  | redacted
  | unredactedInternalOnly
  deriving DecidableEq, Repr

def RedactionState.value : RedactionState → String
  | .sanitizedByConstruction => "sanitized_by_construction"
  | .redacted => "redacted"
  | .unredactedInternalOnly => "unredacted_internal_only"

inductive RetentionClass
  | days30
  | days90
  | days365
  deriving DecidableEq, Repr

namespace RetentionClass

def value : RetentionClass → String
  | .days30 => "days_30"
  | .days90 => "days_90"
  | .days365 => "days_365"

def days : RetentionClass → Nat
  | .days30 => 30
  | .days90 => 90
  | .days365 => 365

end RetentionClass

structure ArtifactMetadata where
  sensitivity : Sensitivity := .internal
  redactionState : RedactionState := .sanitizedByConstruction
  retentionClass : RetentionClass := .days30
  accessPolicyRef : String := "BER-DEC-006-build-evidence-handling"
  preserveOnFailure : Bool := true
  createdAt : Option String := none

structure EvidenceArtifact where
  relativePath : String
  content : ByteArray
  metadata : ArtifactMetadata := {}

/-- The record of an artifact in a manifest. -/
structure ManifestEntry where
  path : String
  bytes : Nat
  sha256 : String
  sensitivity : String
  redactionState : String
  retentionClass : String
  createdAt : String
  expirationAt : String
  accessPolicyRef : String
  preserveOnFailure : Bool

def ManifestEntry.toJson {F : Type} (entry : ManifestEntry) : Json F :=
  .dict [("path", .str entry.path), ("bytes", .int entry.bytes), ("sha256", .str entry.sha256),
    ("sensitivity", .str entry.sensitivity), ("redaction_state", .str entry.redactionState),
    ("retention_class", .str entry.retentionClass), ("created_at", .str entry.createdAt),
    ("expiration_at", .str entry.expirationAt),
    ("access_policy_ref", .str entry.accessPolicyRef),
    ("preserve_on_failure", .bool entry.preserveOnFailure)]

section Writing

variable {F : Type} (host : Host F)

/-- `_expiration_for`. -/
def expirationFor (createdAt : String) (retention : RetentionClass) :
    Except EvidenceFault String :=
  match host.expiration createdAt retention.days with
  | .notIso => .error (.evidenceError s!"created_at is not ISO-8601: {host.repr (.str createdAt)}")
  | .naive =>
      .error (.evidenceError (s!"created_at {host.repr (.str createdAt)} is timezone-naive; " ++
        "a timezone-aware timestamp is required"))
  | .overflow => .error .valueError
  | .at_ expires => .ok expires

/-- `_manifest_entry`; `now` is the reading of the clock. -/
def manifestEntry (now : String) (artifact : EvidenceArtifact) :
    Except EvidenceFault ManifestEntry := do
  let createdAt := (artifact.metadata.createdAt.filter (· ≠ "")).getD now
  let expirationAt ← expirationFor host createdAt artifact.metadata.retentionClass
  pure {
    path := artifact.relativePath
    bytes := artifact.content.size
    sha256 := host.sha256Hex artifact.content
    sensitivity := artifact.metadata.sensitivity.value
    redactionState := artifact.metadata.redactionState.value
    retentionClass := artifact.metadata.retentionClass.value
    createdAt := createdAt
    expirationAt := expirationAt
    accessPolicyRef := artifact.metadata.accessPolicyRef
    preserveOnFailure := artifact.metadata.preserveOnFailure }

/-- `text.encode("ascii") in content`. -/
def Contains (content : ByteArray) (text : String) : Prop :=
  text.toUTF8.data.toList <:+: content.data.toList

instance (content : ByteArray) (text : String) : Decidable (Contains content text) :=
  inferInstanceAs (Decidable (_ <:+: _))

/-- `_check_no_self_hash`. -/
def checkNoSelfHash (content : ByteArray) (ownHash label : String) : Except EvidenceFault Unit :=
  refuse (Contains content ownHash)
    (.circularError s!"{label} contains its own SHA-256; no artifact may hash itself")

/-- The directories on the way to a file are there or are made. -/
def openParents (tree : FileTree String) : List String → List String → Except EvidenceFault Unit
  | _, [] => .ok ()
  | above, component :: rest => do
      refuse ('\x00' ∈ component.toList) .valueError
      require ((tree (above ++ [host.normcase component])).canBeDirectory = true)
        (.evidenceError (s!"evidence path component {host.repr (.str component)} is not " ++
          "a real directory"))
      openParents tree (above ++ [host.normcase component]) rest

/-- The temporary file beside the leaf is new. -/
def createTemp (tree : FileTree String) (directories : List String) (leaf : String) :
    Except EvidenceFault Unit := do
  refuse ('\x00' ∈ leaf.toList) .valueError
  refuse (host.posixEvidenceAtomic = true ∧
      (tree ((directories ++ [".tmp-evidence-" ++ leaf]).map host.normcase)).exists_ = true)
    (.evidenceError "could not create evidence temp no-follow")

/-- The path that is written; the POSIX writer normalizes it again. -/
def targetOf (relativePath : String) : Except EvidenceFault String :=
  if host.posixEvidenceAtomic then
    (normalizeRelativePath host (.str relativePath)).mapError .unsafePathError
  else .ok relativePath

/-- `_atomic_write`, below a root without links. -/
def atomicWrite (tree : FileTree String) (relativePath : String) (content : ByteArray) :
    Except EvidenceFault (FileTree String) := do
  let target ← targetOf host relativePath
  require (tree [] matches .directory) .osError
  let directories := (segments target).dropLast
  openParents host tree [] directories
  createTemp host tree directories ((segments target).getLastD "")
  refuse (tree (host.key target) matches .directory) .osError
  require (host.writable (host.key target) = true) .osError
  pure (tree.write (host.key target) content)

end Writing

end Aegis.Evidence
