import Mathlib.Data.List.Infix
import MediaHub.Calls.Program
import MediaHub.Core.Basic

/-!
The files below a storage root: names are entries of directories, and a file keeps its bytes under
as many names as it is linked to.
-/

namespace MediaHub.Local

open Calls
open MediaHub.Core (Uuid)
open Text (isControl)

inductive StagingFile
  | object
  | metadata
deriving DecidableEq

/-- A component of a path. The name of a staging file is `{uuid}.object` or `{uuid}.metadata`. -/
inductive Segment
  | name (text : List Char)
  | staged (id : Uuid) (file : StagingFile)
deriving DecidableEq

/-- A path below the storage root. -/
abbrev Path := List Segment

/-- A symlink leads nowhere. -/
inductive Node
  | directory
  | file (inode : Nat)
  | symlink
deriving DecidableEq

inductive IoError
  | notFound
  | alreadyExists
  | isADirectory
  | notADirectory
deriving DecidableEq

def IoError.text : IoError → String
  | .notFound => "No such file or directory (os error 2)"
  | .alreadyExists => "File exists (os error 17)"
  | .isADirectory => "Is a directory (os error 21)"
  | .notADirectory => "Not a directory (os error 20)"

/-- The root is a directory, and so is whatever holds an entry. -/
structure FileSystem where
  entries : Path → Option Node
  contents : Nat → List UInt8
  rooted : entries [] = some .directory
  closed : ∀ path segment, (entries (path ++ [segment])).isSome → entries path = some .directory

namespace FileSystem

/-- `fs::symlink_metadata` -/
def symlinkMetadata (path : Path) (fs : FileSystem) : Except IoError Node × FileSystem :=
  match fs.entries path with
  | some node => (.ok node, fs)
  | none => (.error .notFound, fs)

/-- `fs::read` -/
def read (path : Path) (fs : FileSystem) : Except IoError (List UInt8) × FileSystem :=
  match fs.entries path with
  | some (.file inode) => (.ok (fs.contents inode), fs)
  | some .directory => (.error .isADirectory, fs)
  | _ => (.error .notFound, fs)

end FileSystem

open FileSystem

abbrev Text := List Char

inductive ObjectStoreError
  | notFound
  | alreadyExists
  | invalidCursor
  | invalidLimit
  | unavailable (message : String)
deriving DecidableEq

abbrev Store := Program FileSystem ObjectStoreError

def ioError (error : IoError) : ObjectStoreError := .unavailable error.text

def mapReadError : IoError → ObjectStoreError
  | .notFound => .notFound
  | error => ioError error

/-- A call whose error ends the operation. -/
def io {α : Type} (perform : FileSystem → Except IoError α × FileSystem)
    (mapError : IoError → ObjectStoreError) : Store α :=
  (Program.ask perform : Store _) >>= fun
    | .ok a => .ok a
    | .error error => .error (mapError error)

def metadataDirectory : Text := ".mediahub-metadata".toList

def stagingDirectory : Text := ".mediahub-staging".toList

def eqIgnoreAsciiCase (left right : Text) : Bool := left.map Char.toLower = right.map Char.toLower

def isWindowsReservedSegment (segment : Text) : Bool :=
  let uppercase := (segment.takeWhile (· ≠ '.')).map Char.toUpper
  uppercase = "CON".toList || uppercase = "PRN".toList || uppercase = "AUX".toList ||
  uppercase = "NUL".toList ||
  ((uppercase.dropPrefix? "COM".toList).or (uppercase.dropPrefix? "LPT".toList)).any fun suffix =>
    match suffix with
    | [digit] => '1' ≤ digit && digit ≤ '9'
    | _ => false

/-- What remains of a segment after these checks is a normal component. -/
def isInvalidSegment (index : Nat) (segment : Text) : Bool :=
  segment = [] || segment = ['.'] || segment = ['.', '.'] ||
  segment.getLast? = some '.' || segment.getLast? = some ' ' || segment.contains ':' ||
  segment.any (fun value => value = '\x00' || isControl value) ||
  (index = 0 && (eqIgnoreAsciiCase segment metadataDirectory ||
    eqIgnoreAsciiCase segment stagingDirectory)) ||
  isWindowsReservedSegment segment

def pathSegments (segments : List Text) (index : Nat) : Except ObjectStoreError Path :=
  match segments with
  | [] => .ok []
  | segment :: rest =>
      if isInvalidSegment index segment then
        .error (.unavailable "storage key contains an invalid or reserved component")
      else (pathSegments rest (index + 1)).map (Segment.name segment :: ·)

def relativePathFor (key : Text) : Except ObjectStoreError Path :=
  if key = [] then .error (.unavailable "storage key is empty")
  else if key.head? = some '/' || key.getLast? = some '/' || "//".toList <:+: key ||
      "/./".toList <:+: key || "/../".toList <:+: key || key = ['.'] ||
      key = ['.', '.'] || key.contains '\\' then
    .error (.unavailable "storage key is not a canonical relative path")
  else pathSegments (key.splitOn '/') 0

def metadataPath (path : Path) : Path := .name metadataDirectory :: path

def pathFor (key : Text) : Except ObjectStoreError Path := relativePathFor key

def metadataPathFor (key : Text) : Except ObjectStoreError Path :=
  (relativePathFor key).map metadataPath

def ensureSafeFrom (current : Path) (components : List Segment) (allowMissingFinal : Bool) :
    Store Unit :=
  match components with
  | [] => .ok ()
  | value :: rest =>
      Program.ask (symlinkMetadata (current ++ [value])) >>= fun
        | .ok .symlink => .error (.unavailable "storage path contains a symlink")
        | .ok node =>
            if rest ≠ [] ∧ node ≠ .directory then
              .error (.unavailable "storage path contains a non-directory component")
            else ensureSafeFrom (current ++ [value]) rest allowMissingFinal
        | .error .notFound =>
            if allowMissingFinal ∧ rest = [] then
              ensureSafeFrom (current ++ [value]) rest allowMissingFinal
            else .ok ()
        | .error error => .error (ioError error)

def ensureSafePath (path : Path) (allowMissingFinal : Bool) : Store Unit :=
  ensureSafeFrom [] path allowMissingFinal

end MediaHub.Local
