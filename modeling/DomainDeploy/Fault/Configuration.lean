import DomainDeploy.Url.Fault

/-!
# What is wrong with a configuration
-/

namespace DomainDeploy

/-- Why settings, arguments or trust material cannot be used. -/
inductive ConfigurationFault where
  | adminUrlMissing
  | userNameMissing
  | passwordMissing
  | targetMissing
  | adminUrlBlank
  | adminUrlInvalid (url : String) (fault : Url.Fault)
  | adminUrlWithoutHost (url : String)
  | unknownProtocol (name : String)
  | severalTrustModes
  | demoTrustWithoutHome
  | demoTrustNotFound (path : String)
  | customTrustWithoutLocation
  | customTrustNotFound (path : String)
  | standardTrustWithoutHome
  | standardTrustNotFound (path : String)
  | toolWithoutArchive
  | toolArchiveNotFound (path : String)
  | deployTimeoutZero
  | requestTimeoutZero
  | managementUrlInvalid (url : String) (fault : Url.Fault)
  | notABase (url : String)
  | certificateInvalid (path cause : String)
  | certificatesMissing (path : String)
  | artifactNotFound (path : String)
  | artifactWithoutName (path : String)
  | deploymentNameInvalid (text : String)
  | nothingToDo
  | loggingAlreadySet
  /-- A cause that comes from elsewhere, in its own words. -/
  | stated (text : String)
deriving DecidableEq

/-- The wording of a fault. -/
def ConfigurationFault.message : ConfigurationFault → String
  | adminUrlMissing => "The admin_url is empty. Verify the settings file"
  | userNameMissing =>
    "The admin_user_name is empty. Verify the credentials in the settings file"
  | passwordMissing =>
    "The admin_password is empty. Verify the credentials in the settings file"
  | targetMissing => "The target for the deployment is empty. Verify the settings file"
  | adminUrlBlank => "The admin URL is empty"
  | adminUrlInvalid url fault => s!"Failed to parse the admin URL {url}: {fault.message}"
  | adminUrlWithoutHost url => s!"The admin URL {url} has no host"
  | unknownProtocol name =>
    s!"The protocol {name} is invalid. It must be either t3, t3s, http, https, iiop or iiops"
  | severalTrustModes =>
    "Only one of use_demo_trust, use_custom_trust and use_java_standard_trust may be true"
  | demoTrustWithoutHome =>
    "use_demo_trust requires wl_home or the WL_HOME environment variable"
  | demoTrustNotFound path =>
    s!"The DemoTrust.jks file was resolved to {path} and could not be located. Verify wl_home"
  | customTrustWithoutLocation => "use_custom_trust requires trust_store_location"
  | customTrustNotFound path =>
    s!"The trust store was resolved to {path} and could not be located. Verify " ++
      "trust_store_location"
  | standardTrustWithoutHome =>
    "use_java_standard_trust requires java_home or the JAVA_HOME environment variable"
  | standardTrustNotFound path =>
    s!"The cacerts file was resolved to {path} and could not be located. Verify the Java " ++
      "installation"
  | toolWithoutArchive => "The process strategy requires wl_home, WL_HOME or weblogic_jar_path"
  | toolArchiveNotFound path =>
    s!"The weblogic.jar could not be located at {path}. Verify wl_home and weblogic_jar_path"
  | deployTimeoutZero => "The deploy_timeout_secs must be greater than zero"
  | requestTimeoutZero => "The request_timeout_secs must be greater than zero"
  | managementUrlInvalid url fault => s!"Invalid management URL {url}: {fault.message}"
  | notABase url => s!"{url} cannot be a base URL"
  | certificateInvalid path cause => s!"Invalid certificate in {path}: {cause}"
  | certificatesMissing path => s!"No certificates found in {path}"
  | artifactNotFound path => s!"The artifact {path} does not exist"
  | artifactWithoutName path => s!"Cannot derive a deployment name from {path}"
  | deploymentNameInvalid text => s!"Invalid deployment name: {text}"
  | nothingToDo => "Nothing to do. Use --deploy=<artifact>, --undeploy=<name> or --status"
  | loggingAlreadySet => "a global default trace dispatcher has already been set"
  | stated text => text

end DomainDeploy
