import MediaHub.Domain.Metadata
import MediaHub.Transition.System

namespace MediaHub.Domain

open Result Transition Transition.Method
open MediaHub.Core (Time ApplicationId BucketId MediaId MediaState maxU64)
open MediaHub.Http (Text)

/-- Both measurements are there together and positive. -/
structure MediaDimensions where
  width : Nat
  height : Nat
  positive : 0 < width ∧ 0 < height

def MediaDimensions.new (width height : Nat) : DomainResult MediaDimensions :=
  if h : 0 < width ∧ 0 < height then .ok ⟨width, height, h⟩ else .error .invalidMetadataShape

structure NewMedia where
  id : MediaId
  applicationId : ApplicationId
  bucketId : BucketId
  objectKey : Text
  originalName : Option Text
  displayName : Text
  extension : Option Text
  storageBackend : Text
  storageKey : Text
  visibilityOverride : Option Visibility
  expireAt : Option Time
  systemMetadata : SystemMetadata
  clientMetadata : ClientMetadata

structure PersistedSystemMetadata where
  mime : Text
  size : Nat
  width : Option Nat
  height : Option Nat
  durationMs : Option Nat
  sha256 : Text

structure PersistedMedia where
  id : MediaId
  applicationId : ApplicationId
  bucketId : BucketId
  objectKey : Text
  originalName : Option Text
  displayName : Text
  extension : Option Text
  storageBackend : Text
  storageKey : Text
  state : MediaState
  visibilityOverride : Option Visibility
  systemMetadata : PersistedSystemMetadata
  clientMetadata : ClientMetadata
  metadataVersion : Nat
  revision : Nat
  expireAt : Option Time
  archivedAt : Option Time
  deletedAt : Option Time
  createdAt : Time
  updatedAt : Time

structure Media where
  id : MediaId
  applicationId : ApplicationId
  bucketId : BucketId
  objectKey : Text
  originalName : Option Text
  displayName : Text
  mime : Text
  extension : Option Text
  size : Nat
  dimensions : Option MediaDimensions
  durationMs : Option Nat
  sha256 : Text
  etag : Text
  storageBackend : Text
  storageKey : Text
  state : MediaState
  visibilityOverride : Option Visibility
  metadata : MediaMetadata
  metadataVersion : Nat
  revision : Nat
  expireAt : Option Time
  archivedAt : Option Time
  deletedAt : Option Time
  createdAt : Time
  updatedAt : Time

namespace Media

def validateFields (objectKey : Text) (originalName : Option Text) (displayName : Text)
    (extension : Option Text) (storageBackend storageKey : Text) : DomainResult Unit := do
  validateObjectKey objectKey
  validateTextField "display name" displayName 255
  validateOptionalTextField "original name" originalName 255
  validateOptionalTextField "extension" extension 32
  validateTextField "storage backend" storageBackend 128
  validateTextField "storage key" storageKey 1024

def dimensionsOf (system : SystemMetadata) : DomainResult (Option MediaDimensions) :=
  match system.width, system.height with
  | some width, some height => (MediaDimensions.new width height).map some
  | none, none => .ok none
  | _, _ => .error .invalidMetadataShape

def new (input : NewMedia) (now : Time) : DomainResult Media := do
  validateFields input.objectKey input.originalName input.displayName input.extension
    input.storageBackend input.storageKey
  let dimensions ← dimensionsOf input.systemMetadata
  let metadata ← MediaMetadata.new input.systemMetadata input.clientMetadata
  return {
    id := input.id
    applicationId := input.applicationId
    bucketId := input.bucketId
    objectKey := input.objectKey
    originalName := input.originalName
    displayName := input.displayName
    mime := metadata.system.mime
    extension := input.extension
    size := metadata.system.size
    dimensions
    durationMs := metadata.system.durationMs
    sha256 := metadata.system.sha256
    etag := metadata.system.sha256
    storageBackend := input.storageBackend
    storageKey := input.storageKey
    state := .uploading
    visibilityOverride := input.visibilityOverride
    metadata
    metadataVersion := currentMetadataVersion
    revision := 0
    expireAt := input.expireAt
    archivedAt := none
    deletedAt := none
    createdAt := now
    updatedAt := now }

/-- Nothing is checked of the expiry. -/
theorem new_expireAt (input : NewMedia) (expireAt : Option Time) (now : Time) :
    new { input with expireAt } now =
      (new input now).map fun media => { media with expireAt } := by
  simp only [new]
  cases validateFields input.objectKey input.originalName input.displayName
      input.extension input.storageBackend input.storageKey with
  | error e => rfl
  | ok u =>
      cases dimensionsOf input.systemMetadata with
      | error e => rfl
      | ok dimensions =>
          cases MediaMetadata.new input.systemMetadata input.clientMetadata with
          | error e => rfl
          | ok metadata => rfl

/-- Archived and deleted media have the time of it. -/
def validTerminalTimestamps (state : MediaState) (archivedAt deletedAt : Option Time) : Bool :=
  (state ≠ .archived || archivedAt.isSome) && (state ≠ .deleted || deletedAt.isSome)

def validateTerminalTimestamps (state : MediaState) (archivedAt deletedAt : Option Time) :
    DomainResult Unit :=
  rejectIf (validTerminalTimestamps state archivedAt deletedAt = false) .invalidMetadataShape

def fromPersistence (persisted : PersistedMedia) : DomainResult Media := do
  validateFields persisted.objectKey persisted.originalName persisted.displayName
    persisted.extension persisted.storageBackend persisted.storageKey
  rejectIf (persisted.metadataVersion = 0) .invalidMetadataVersion
  validateTerminalTimestamps persisted.state persisted.archivedAt persisted.deletedAt
  let systemMetadata ← SystemMetadata.new persisted.systemMetadata.mime
    persisted.systemMetadata.size persisted.systemMetadata.width persisted.systemMetadata.height
    persisted.systemMetadata.durationMs persisted.systemMetadata.sha256
  let dimensions ← dimensionsOf systemMetadata
  let metadata ← MediaMetadata.new systemMetadata persisted.clientMetadata
  return {
    id := persisted.id
    applicationId := persisted.applicationId
    bucketId := persisted.bucketId
    objectKey := persisted.objectKey
    originalName := persisted.originalName
    displayName := persisted.displayName
    mime := metadata.system.mime
    extension := persisted.extension
    size := metadata.system.size
    dimensions
    durationMs := metadata.system.durationMs
    sha256 := metadata.system.sha256
    etag := metadata.system.sha256
    storageBackend := persisted.storageBackend
    storageKey := persisted.storageKey
    state := persisted.state
    visibilityOverride := persisted.visibilityOverride
    metadata
    metadataVersion := persisted.metadataVersion
    revision := persisted.revision
    expireAt := persisted.expireAt
    archivedAt := persisted.archivedAt
    deletedAt := persisted.deletedAt
    createdAt := persisted.createdAt
    updatedAt := persisted.updatedAt }

/-- No result where the `expect` on the client metadata panics. -/
def toPersisted (self : Media) : Option PersistedMedia :=
  match ClientMetadata.new self.metadata.user self.metadata.ai with
  | .error _ => none
  | .ok clientMetadata => some {
      id := self.id
      applicationId := self.applicationId
      bucketId := self.bucketId
      objectKey := self.objectKey
      originalName := self.originalName
      displayName := self.displayName
      extension := self.extension
      storageBackend := self.storageBackend
      storageKey := self.storageKey
      state := self.state
      visibilityOverride := self.visibilityOverride
      systemMetadata := {
        mime := self.mime
        size := self.size
        width := self.dimensions.map MediaDimensions.width
        height := self.dimensions.map MediaDimensions.height
        durationMs := self.durationMs
        sha256 := self.sha256 }
      clientMetadata
      metadataVersion := self.metadataVersion
      revision := self.revision
      expireAt := self.expireAt
      archivedAt := self.archivedAt
      deletedAt := self.deletedAt
      createdAt := self.createdAt
      updatedAt := self.updatedAt }

abbrev Step := Method Media DomainError

/-- The revision saturates. -/
def touch (now : Time) : Step Unit := do
  assign fun self => { self with revision := min (self.revision + 1) maxU64 }
  assign fun self => { self with updatedAt := now }

def ensureExpectedRevision (expectedRevision : Nat) : Step Unit :=
  reject (fun self => self.revision ≠ expectedRevision) fun self =>
    .revisionConflict expectedRevision self.revision

def transitionTo (next : MediaState) (now : Time) : Step Unit := do
  reject (fun self => !self.state.canTransitionTo next) fun self =>
    .invalidMediaStateTransition self.state next
  assign fun self => { self with state := next }
  assign fun self => if next = .archived then { self with archivedAt := some now } else self
  assign fun self => if next = .deleted then { self with deletedAt := some now } else self
  touch now

def replaceClientMetadata (clientMetadata : ClientMetadata) (expectedRevision : Nat)
    (now : Time) : Step Unit := do
  ensureExpectedRevision expectedRevision
  let replacement ← observe fun self => self.metadata.replaceClientMetadata clientMetadata
  let metadata ← check replacement
  assign fun self => { self with metadata := metadata }
  touch now

def setDisplayName (displayName : Text) (expectedRevision : Nat) (now : Time) : Step Unit := do
  ensureExpectedRevision expectedRevision
  check (validateTextField "display name" displayName 255)
  assign fun self => { self with displayName := displayName }
  touch now

def setVisibilityOverride (visibilityOverride : Option Visibility) (expectedRevision : Nat)
    (now : Time) : Step Unit := do
  ensureExpectedRevision expectedRevision
  assign fun self => { self with visibilityOverride := visibilityOverride }
  touch now

def setExpireAt (expireAt : Option Time) (expectedRevision : Nat) (now : Time) : Step Unit := do
  ensureExpectedRevision expectedRevision
  assign fun self => { self with expireAt := expireAt }
  touch now

end Media

end MediaHub.Domain
