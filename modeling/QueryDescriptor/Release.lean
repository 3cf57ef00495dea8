import QueryDescriptor.Json
import QueryDescriptor.Log
import QueryDescriptor.Text.Occurrence

namespace QueryDescriptor

structure Release where
  systems : List Text
  architectures : List Text
  protocols : List Text
  baseUrl : Text
  provider : Text
  version : Text
  armor : Text
  keyId : Text
  keySource : Text
  keySourceUrl : Text
  deriving DecidableEq

namespace Release

structure Platform where
  system : Text
  architecture : Text
  deriving DecidableEq

/-- There is a build for the platform; one system has none for 32 bits. -/
def Platform.isBuilt (p : Platform) : Bool :=
  !(p.system == "darwin" && (p.architecture == "386" || p.architecture == "arm"))

def platforms (r : Release) : List Platform :=
  (r.systems.flatMap fun s => r.architectures.map fun a => ⟨s, a⟩).filter (·.isBuilt)

def armorHeader : Text := "-----BEGIN PGP PUBLIC KEY BLOCK-----"

def armorVersion : Text := "Version: GnuPG v1"

/-- An armored key with the version line below each of its headers. -/
def annotate (armor : Text) : Text :=
  Text.replace armorHeader (armorHeader ++ '\n' :: armorVersion) armor

def stem (r : Release) : Text := r.provider ++ '_' :: r.version

def directoryUrl (r : Release) : Text := r.baseUrl ++ '/' :: r.version

structure Artifact where
  platform : Platform
  filename : Text
  downloadUrl : Text
  deriving DecidableEq

def artifact (r : Release) (p : Platform) : Artifact :=
  let filename := r.stem ++ '_' :: p.system ++ '_' :: p.architecture ++ ".zip"
  ⟨p, filename, r.directoryUrl ++ '/' :: filename⟩

def artifacts (r : Release) : List Artifact := r.platforms.map r.artifact

def checksumsUrl (r : Release) : Text := r.directoryUrl ++ '/' :: r.stem ++ "_SHA256SUMS"

def keysJson (r : Release) : Json :=
  .record [
    ("gpg_public_keys", .list [.record [
      ("key_id", .text r.keyId),
      ("ascii_armor", .text (annotate r.armor)),
      ("trust_signature", .text []),
      ("source", .text r.keySource),
      ("source_url", .text r.keySourceUrl)]])]

def artifactJson (r : Release) (a : Artifact) : Json :=
  .record [
    ("os", .text a.platform.system),
    ("arch", .text a.platform.architecture),
    ("filename", .text a.filename),
    ("download_url", .text a.downloadUrl),
    ("shasums_url", .text r.checksumsUrl),
    ("shasums_signature_url", .text (r.checksumsUrl ++ ".sig")),
    ("shasum", .text []),
    ("signing_keys", r.keysJson)]

def manifest (r : Release) : Json :=
  .record [
    ("versions", .list [.record [
      ("version", .text r.version),
      ("protocols", .texts r.protocols),
      ("platforms", .list (r.artifacts.map r.artifactJson))]])]

def record (r : Release) : Log.Record :=
  ⟨.debug, "Generated manifest with " ++ Text.ofNat r.artifacts.length ++ " platforms."⟩

end Release
end QueryDescriptor
