import ImageStages.Blueprint.Customizations
import ImageStages.Blueprint.Repository
import ImageStages.Document.Access
import ImageStages.Stage.Record

namespace ImageStages.Deployment

def packageOptions (repositories : List Repository) : Fields :=
  Fields.setFields (options [
    ("gpgkeys", .list ((repositories.map (·.gpgkey)).filter Document.given))])

/-- Labels that let programs of the build root keep the labels of files. -/
def installerLabels : Document := .record [
  ("/usr/bin/cp", .text "system_u:object_r:install_exec_t:s0"),
  ("/usr/bin/tar", .text "system_u:object_r:install_exec_t:s0")]

def relabelOptions (labelCopying : Document) : Fields :=
  options (("file_contexts", .text "etc/selinux/targeted/contexts/files/file_contexts") ::
    (if labelCopying.given then [("labels", installerLabels)] else []))

def firewallOptions (firewall : Firewall) : Fields :=
  let services : List (Text × Document) :=
    match firewall.services with
    | some services =>
        [("enabled_services", .list services.enabled),
          ("disabled_services", .list services.disabled)]
    | none => []
  Fields.setFields (options (("ports", .list firewall.ports) :: services))

/-- The services of the image type first, then those of the blueprint. -/
def serviceOptions (enabled disabled : Document) (services : Option Services)
    (target : Document) : Except Mishap Fields := do
  let enabled ← enabled.items
  let disabled ← disabled.items
  let added := services.getD ⟨[], []⟩
  return Fields.setFields (options [
    ("enabled_services", .list (enabled ++ added.enabled)),
    ("disabled_services", .list (disabled ++ added.disabled)),
    ("default_target", target.orElse .null)])

end ImageStages.Deployment
