import DomainDeploy.DeployError
import DomainDeploy.FileSystem.Name
import DomainDeploy.Log
import DomainDeploy.Text.Case
import DomainDeploy.Trust.Context
import DomainDeploy.Trust.Pem

/-!
# Further root certificates

Which certificates the management connection trusts besides those that are built in.  A store of
certificates in text form is read; a store in any other form is for the deployment tool alone.  The
standard mode takes the certificates of the file that the environment names.
-/

namespace DomainDeploy.TrustContext

/-- The extensions of files that hold certificates in text form. -/
def bundleExtensions : List String := ["pem", "crt", "cer"]

/-- Whether a path leads to a file with certificates in text form. -/
def isBundle (path : String) : Bool :=
  match FileSystem.extension? path with
  | some e => bundleExtensions.contains (Text.lower e)
  | none => false

/-- The certificates of the store at `path`, of which there must be one. -/
def bundleAt (files : FileSystem) (path : String) : Except DeployError (List (List UInt8)) := do
  let bytes ← (files.bytesAt path).mapError .file
  match Trust.Pem.certificates bytes with
  | .error fault => throw (.configuration (.certificateInvalid path fault.message))
  | .ok [] => throw (.configuration (.certificatesMissing path))
  | .ok certificates => return certificates

/-- Why the file that the environment names is of no use, if it is not. -/
def environmentBundle (files : FileSystem) (path : String) :
    Except String (List (List UInt8)) := do
  let failed (cause : String) := s!"could not load certs from file {path}: {cause}"
  let bytes ← (files.bytesAt path).mapError fun fault => failed fault.message
  let certificates ← (Trust.Pem.certificates bytes).mapError fun fault =>
    failed s!"Could not load PEM file {Text.quoted path}: {fault.message}"
  return certificates.eraseDups

/-- The certificates to trust besides the built-in ones, and what there is to note. -/
def roots (c : TrustContext) (files : FileSystem) (environment : String → Option String) :
    Except DeployError (List (List UInt8)) × List Note :=
  match c.mode with
  | .builtIn => (.ok [], [])
  | .standard =>
    match environment TrustStore.locationVariable with
    | none => (.ok [], [])
    | some path =>
      match environmentBundle files path with
      | .ok certificates => (.ok certificates, [])
      | .error cause =>
        (.ok [], [⟨.warn, s!"Failed to load native root certificates: {cause}"⟩])
  | .demo | .custom =>
    match c.location with
    | none => (.ok [], [])
    | some path =>
      if isBundle path then (bundleAt files path, [])
      else
        (.ok [], [⟨.debug, s!"Trust store {path} is not a PEM bundle, using built-in roots for " ++
          "the management connection"⟩])

end DomainDeploy.TrustContext
